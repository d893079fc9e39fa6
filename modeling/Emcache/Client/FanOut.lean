import Emcache.Client.Results

/-!
# The fan-out of `get_many`: `asyncio.gather` under cancellation

`_fetch_many_command` (and `_get_and_touch_many_command`, line for line the same) starts
one task per node and waits for all of them:

> async with OpTimeout(self._timeout, self._loop):
>     try:
>         await asyncio.gather(*tasks)
>     except Exception:
>         for task in tasks:
>             if not task.done():
>                 task.cancel()
>         raise
> return [task.result() for task in tasks]

Whether a sibling is left running depends on how the tasks' ends, `gather`'s callbacks,
the timer of `OpTimeout` and the caller's own resumption interleave on the event loop.
This file models those pieces as events of one state machine, `Gather`, following
`asyncio`'s own code:

* `childEnd i o`: task `i` ends with a result, an exception, or cancelled
  (`.raised .cancelledError`); its done callback, `gather`'s `_done_callback`, is queued.
* `notify i`: that callback runs.  It counts the task; if the outer future is pending, an
  exception or a cancellation of the task sets it as the outer future's exception, and
  the last task to finish sets the results (or `CancelledError` if the outer future was
  cancelled).  The outer future's completion queues the caller's wake-up.
* `cancelCaller byTimer`: `Task.cancel()` on the caller, from `OpTimeout`'s timer or from
  outside.  While the outer future is pending this is `_GatheringFuture.cancel()`, which
  cancels every child still running; once the outer future is done, it only sets the
  caller's `_must_cancel`.
* `wake`: the caller's `__step` runs.  `_must_cancel` turns what it resumes with into
  `CancelledError`.  `except Exception` then catches everything but `CancelledError`,
  cancels the children still running and re-raises; `CancelledError` passes through, and
  `OpTimeout` turns it into `TimeoutError` when its timer fired.

`OpTimeout` lives in `timeout.py`, which is absent: it is modelled from the spec ("If the
deadline fires while a callee is suspended, the guard requests cancellation of that
callee and fails with a `Timeout` error").

## Results

`Inv` is what every reachable state satisfies; `Inv.step` and `Inv.run` carry it along
every run from `init`.  From it:

* `returned_all_results`: when the caller returns, every task ended with a result and the
  list returned is theirs, in task order: no partial result is returned;
* once the outer future was cancelled, or once the caller re-raised a task's own
  exception, every task is done or has had `cancel()` called;
* `returning_run_gathered`: over every schedule in which every task returns (`ReturnInv`
  carries what such schedules keep), once every callback has run the state is the same
  whatever the order: the outer future holds all the results, in task order, and the
  caller's wake-up is queued, so the caller returns them;
* and the one run the invariant does not cover: a cancellation of the caller that lands
  after a task failed and before the caller resumes skips `except Exception`, and the
  caller raises with a sibling still running, never cancelled.
-/

namespace Emcache
namespace FanOut

/-- What a task or a future ended with. -/
inductive Outcome (α : Type) where
  | result (a : α)
  | raised (e : PyExc)
  deriving DecidableEq, Repr

/-- A sub-request task: `state` is `none` while it runs; `cancelCalled` records a
`task.cancel()` on it; `notifyScheduled` that `gather`'s done callback for it is queued. -/
structure Child (α : Type) where
  state : Option (Outcome α)
  cancelCalled : Bool
  notifyScheduled : Bool
  deriving DecidableEq, Repr

/-- The tasks, `gather`'s outer future and counter, and the caller's task. -/
structure Gather (α : Type) where
  children : List (Child α)
  /-- `nfinished` of `gather`. -/
  nfinished : Nat
  /-- The outer `_GatheringFuture`, once done. -/
  outer : Option (Outcome (List α))
  /-- `outer._cancel_requested`. -/
  cancelRequested : Bool
  /-- The caller task's `_must_cancel`. -/
  mustCancel : Bool
  /-- The caller's wake-up is queued on the loop. -/
  wakeScheduled : Bool
  /-- `OpTimeout`'s timer fired. -/
  timedOut : Bool
  /-- What the caller ended with. -/
  caller : Option (Outcome (List α))
  deriving DecidableEq, Repr

/-- An event of the loop. -/
inductive Event (α : Type) where
  | childEnd (i : Nat) (o : Outcome α)
  | notify (i : Nat)
  | cancelCaller (byTimer : Bool)
  | wake
  deriving DecidableEq, Repr

variable {α : Type}

/-- `task.cancel()` on a task: it only has an effect on a task still running. -/
def Child.cancel (c : Child α) : Child α :=
  if c.state.isNone then { c with cancelCalled := true } else c

/-- The result of a task that ended with one. -/
def Child.result? (c : Child α) : Option α :=
  match c.state with
  | some (.result a) => some a
  | _ => none

/-- The results `gather` collects once every task is done. -/
def results (cs : List (Child α)) : List α := cs.filterMap Child.result?

/-- `_done_callback` of `gather`, after it counted the task, for a task that ended with
`o`. -/
def doneCallback (s : Gather α) (o : Option (Outcome α)) : Gather α :=
  if s.outer.isSome then s
  else match o with
    | some (.raised e) => { s with outer := some (.raised e), wakeScheduled := true }
    | _ =>
      if s.nfinished = s.children.length then
        { s with
          outer := some (if s.cancelRequested then .raised .cancelledError
            else .result (results s.children)),
          wakeScheduled := true }
      else s

/-- One event, or `none` when it cannot happen in the state. -/
def step (s : Gather α) : Event α → Option (Gather α)
  | .childEnd i o =>
    match s.children[i]? with
    | some c =>
      if c.state.isNone then
        some { s with children := s.children.set i { c with state := some o, notifyScheduled := true } }
      else none
    | none => none
  | .notify i =>
    match s.children[i]? with
    | some c =>
      if c.notifyScheduled then
        some (doneCallback { s with
          children := s.children.set i { c with notifyScheduled := false },
          nfinished := s.nfinished + 1 } c.state)
      else none
    | none => none
  | .cancelCaller byTimer =>
    if s.caller.isSome then some s
    else
      let s := { s with timedOut := s.timedOut || byTimer }
      if s.outer.isNone && s.children.any (·.state.isNone) then
        some { s with children := s.children.map Child.cancel, cancelRequested := true }
      else some { s with mustCancel := true }
  | .wake =>
    if s.wakeScheduled && s.caller.isNone then
      match s.outer with
      | some o =>
        let exc : Option PyExc :=
          if s.mustCancel then some .cancelledError
          else match o with
            | .raised e => some e
            | .result _ => none
        let s := { s with wakeScheduled := false, mustCancel := false }
        match exc with
        | none => some { s with caller := some o }
        | some e =>
          if e.isException then
            some { s with children := s.children.map Child.cancel, caller := some (.raised e) }
          else
            some { s with caller := some (.raised (if s.timedOut then .timeoutError else e)) }
      | none => none
    else none

/-- A sequence of events; `none` if one of them cannot happen. -/
def run (s : Gather α) : List (Event α) → Option (Gather α)
  | [] => some s
  | e :: es => (step s e).bind fun s' => run s' es

/-- The caller awaiting `gather` over `m` tasks just started. -/
def init (m : Nat) : Gather α :=
  ⟨List.replicate m ⟨none, false, false⟩, 0, none, false, false, false, false, none⟩

/-! ## Invariants of one step -/

/-- A task that is done, or that has had `cancel()` called on it. -/
def Child.Settled (c : Child α) : Prop := c.state.isSome = true ∨ c.cancelCalled = true

/-- What every reachable state satisfies.  `nfinished` counts the tasks whose callback
ran; a queued callback belongs to a finished task; while the outer future is pending, a
task that raised still has its callback queued; an outer future done with results holds
every task's result; the caller returns only the outer future's results; once the outer
future is cancelled, or once the caller re-raised a task's own exception, every task is
settled. -/
structure Inv (s : Gather α) : Prop where
  nfinished_eq : s.nfinished = s.children.countP fun c => c.state.isSome && !c.notifyScheduled
  scheduled_done : ∀ c ∈ s.children, c.notifyScheduled = true → c.state.isSome = true
  raised_scheduled : s.outer = none → ∀ c ∈ s.children, ∀ e,
    c.state = some (.raised e) → c.notifyScheduled = true
  outer_result : ∀ rs, s.outer = some (.result rs) →
    rs = results s.children ∧ ∀ c ∈ s.children, c.result?.isSome = true
  caller_result : ∀ rs, s.caller = some (.result rs) → s.outer = some (.result rs)
  cancelled_settled : s.cancelRequested = true → ∀ c ∈ s.children, c.Settled
  reraised_settled : ∀ e, s.caller = some (.raised e) → e ≠ .timeoutError →
    e ≠ .cancelledError → ∀ c ∈ s.children, c.Settled

theorem countP_set {β : Type} (p : β → Bool) :
    ∀ (l : List β) (i : Nat) (a : β) (h : i < l.length),
      (l.set i a).countP p + (if p l[i] then 1 else 0) = l.countP p + (if p a then 1 else 0)
  | [], _, _, h => absurd h (Nat.not_lt_zero _)
  | b :: l, 0, a, _ => by
    simp only [List.set_cons_zero, List.countP_cons, List.getElem_cons_zero]; omega
  | b :: l, i + 1, a, h => by
    have := countP_set p l i a (by simpa using h)
    simp only [List.set_cons_succ, List.countP_cons, List.getElem_cons_succ]; omega

theorem filterMap_set_of_eq {β γ : Type} (f : β → Option γ) :
    ∀ (l : List β) (i : Nat) (a : β) (h : i < l.length), f a = f l[i] →
      (l.set i a).filterMap f = l.filterMap f
  | [], _, _, h, _ => absurd h (Nat.not_lt_zero _)
  | b :: l, 0, a, _, hf => by simp [List.filterMap_cons, hf]
  | b :: l, i + 1, a, h, hf => by
    simp [List.filterMap_cons, filterMap_set_of_eq f l i a (by simpa using h) hf]

theorem mem_of_getElem? {β : Type} {l : List β} {i : Nat} {a : β} (h : l[i]? = some a) :
    a ∈ l := by
  obtain ⟨hi, rfl⟩ := List.getElem?_eq_some.mp h
  exact List.getElem_mem hi

@[simp] theorem result?_cancel (c : Child α) : c.cancel.result? = c.result? := by
  unfold Child.cancel; split <;> rfl

@[simp] theorem state_cancel (c : Child α) : c.cancel.state = c.state := by
  unfold Child.cancel; split <;> rfl

@[simp] theorem notifyScheduled_cancel (c : Child α) :
    c.cancel.notifyScheduled = c.notifyScheduled := by
  unfold Child.cancel; split <;> rfl

theorem settled_cancel (c : Child α) : c.cancel.Settled := by
  unfold Child.cancel Child.Settled
  split
  · exact .inr rfl
  · left; cases h : c.state <;> simp_all

theorem Child.Settled.cancel {c : Child α} (h : c.Settled) : c.cancel.Settled := by
  unfold Child.Settled at *; unfold Child.cancel; split <;> simp_all

theorem results_map_cancel (cs : List (Child α)) : results (cs.map Child.cancel) = results cs := by
  simp [results, List.filterMap_map, Function.comp_def]

/-- The invariant holds before any event. -/
theorem inv_init (m : Nat) : Inv (init m : Gather α) where
  nfinished_eq := by simp [init, List.countP_replicate]
  scheduled_done := by simp [init, List.mem_replicate]
  raised_scheduled := by simp [init, List.mem_replicate]
  outer_result := by simp [init]
  caller_result := by simp [init]
  cancelled_settled := by simp [init]
  reraised_settled := by simp [init]

section Steps

variable {s : Gather α}

/-- A task ends. -/
theorem Inv.childEnd (hs : Inv s) {i : Nat} {c : Child α} (hc : s.children[i]? = some c)
    (hn : c.state = none) (o : Outcome α) :
    Inv { s with children := s.children.set i { c with state := some o, notifyScheduled := true } } := by
  obtain ⟨hi, hci⟩ := List.getElem?_eq_some.mp hc
  have hmem : c ∈ s.children := mem_of_getElem? hc
  -- no outer result while a task runs
  have hnores : ∀ rs, s.outer ≠ some (.result rs) := fun rs h => by
    have := (hs.outer_result rs h).2 c hmem
    simp [Child.result?, hn] at this
  refine ⟨?_, fun d hd => ?_, fun ho d hd e he => ?_, fun rs h => absurd h (hnores rs),
    fun rs h => absurd (hs.caller_result rs h) (hnores rs), fun hcr d hd => ?_,
    fun e he h1 h2 d hd => ?_⟩
  · have := countP_set (fun c : Child α => c.state.isSome && !c.notifyScheduled) s.children i
      { c with state := some o, notifyScheduled := true } hi
    rw [hci] at this
    simp only [hn, Option.isSome_none, Bool.false_and, Bool.not_true, Bool.and_false] at this
    simp only [hs.nfinished_eq]; omega
  all_goals rcases List.mem_or_eq_of_mem_set hd with hd | rfl
  · exact hs.scheduled_done d hd
  · exact fun _ => rfl
  · exact hs.raised_scheduled ho d hd e he
  · rfl
  · exact hs.cancelled_settled hcr d hd
  · exact .inl rfl
  · exact hs.reraised_settled e he h1 h2 d hd
  · exact .inl rfl

/-- `gather`'s callback for a finished task runs. -/
theorem Inv.notify (hs : Inv s) {i : Nat} {c : Child α} (hc : s.children[i]? = some c)
    (hsch : c.notifyScheduled = true) :
    Inv (doneCallback { s with
      children := s.children.set i { c with notifyScheduled := false },
      nfinished := s.nfinished + 1 } c.state) := by
  obtain ⟨hi, hci⟩ := List.getElem?_eq_some.mp hc
  have hmem : c ∈ s.children := mem_of_getElem? hc
  have hdone : c.state.isSome = true := hs.scheduled_done c hmem hsch
  generalize hc' : ({ c with notifyScheduled := false } : Child α) = c'
  have hmem1 : ∀ d ∈ s.children.set i c', d ∈ s.children ∨ d = c' :=
    fun d hd => List.mem_or_eq_of_mem_set hd
  have hres1 : results (s.children.set i c') = results s.children :=
    filterMap_set_of_eq _ _ _ _ hi (by rw [hci, ← hc']; rfl)
  have hcount : s.nfinished + 1 =
      (s.children.set i c').countP fun c => c.state.isSome && !c.notifyScheduled := by
    have := countP_set (fun c : Child α => c.state.isSome && !c.notifyScheduled) s.children i c' hi
    rw [hci] at this
    rw [← hc'] at this ⊢
    simp [hsch, hdone] at this
    rw [hs.nfinished_eq]; omega
  have hsched1 : ∀ d ∈ s.children.set i c', d.notifyScheduled = true → d.state.isSome = true := by
    intro d hd; rcases hmem1 d hd with hd | rfl
    · exact hs.scheduled_done d hd
    · rw [← hc']; intro h; cases h
  have hsettled : (∀ d ∈ s.children, d.Settled) → ∀ d ∈ s.children.set i c', d.Settled := by
    intro h d hd; rcases hmem1 d hd with hd | rfl
    · exact h d hd
    · rw [← hc']; exact h c hmem
  have hall : (∀ d ∈ s.children, d.result?.isSome = true) →
      ∀ d ∈ s.children.set i c', d.result?.isSome = true := by
    intro h d hd; rcases hmem1 d hd with hd | rfl
    · exact h d hd
    · rw [← hc']; exact h c hmem
  -- while the outer future is pending, a task raised only if its callback is queued
  have hraised1 (ho : s.outer = none) (hnr : ∀ e, c.state ≠ some (.raised e)) :
      ∀ d ∈ s.children.set i c', ∀ e, d.state = some (.raised e) → d.notifyScheduled = true := by
    intro d hd e he; rcases hmem1 d hd with hd | rfl
    · exact hs.raised_scheduled ho d hd e he
    · rw [← hc'] at he; exact absurd he (hnr e)
  unfold doneCallback
  split
  · -- the outer future was already done: only the callback's bookkeeping changes
    next hout =>
    refine ⟨hcount, hsched1, fun ho => (by rw [show s.outer = none from ho] at hout; cases hout),
      fun rs h => ?_,
      hs.caller_result, fun h => hsettled (hs.cancelled_settled h),
      fun e he h1 h2 => hsettled (hs.reraised_settled e he h1 h2)⟩
    obtain ⟨rfl, h2⟩ := hs.outer_result rs h
    exact ⟨hres1.symm, hall h2⟩
  · next hout =>
    have ho : s.outer = none := by simpa using hout
    have hnocaller : ∀ rs, s.caller ≠ some (.result rs) := fun rs h => by
      simpa [ho] using hs.caller_result rs h
    split
    · -- the task raised: its exception becomes the outer future's
      refine ⟨hcount, hsched1, fun h => (by cases h), fun rs h => (by cases h),
        fun rs h => absurd h (hnocaller rs), fun h => hsettled (hs.cancelled_settled h),
        fun e he h1 h2 => hsettled (hs.reraised_settled e he h1 h2)⟩
    · next hnr =>
      have hnr' : ∀ e, c.state ≠ some (.raised e) := fun e h => hnr e h
      split
      · -- the last task: every task is done, none raised, so all have results
        next hall_done =>
        have hres : ∀ d ∈ s.children.set i c', d.result?.isSome = true := by
          have hp := List.countP_eq_length.mp (hcount.symm.trans (by simpa using hall_done))
          intro d hd
          have hpd := hp d hd
          simp only [Bool.and_eq_true, Bool.not_eq_true'] at hpd
          match hst : d.state, hpd with
          | some (.result a), _ => simp [Child.result?, hst]
          | some (.raised e), hpd =>
            have := hraised1 ho hnr' d hd e hst
            simp [hpd.2] at this
        refine ⟨hcount, hsched1, fun h => (by cases h), fun rs h => ?_,
          fun rs h => absurd h (hnocaller rs), fun h => hsettled (hs.cancelled_settled h),
          fun e he h1 h2 => hsettled (hs.reraised_settled e he h1 h2)⟩
        split at h
        · cases h
        · cases h; exact ⟨rfl, hres⟩
      · exact ⟨hcount, hsched1, fun _ => hraised1 ho hnr', fun rs h => (by simp [ho] at h),
          fun rs h => absurd h (hnocaller rs), fun h => hsettled (hs.cancelled_settled h),
          fun e he h1 h2 => hsettled (hs.reraised_settled e he h1 h2)⟩

theorem countP_map_cancel (cs : List (Child α)) :
    (cs.map Child.cancel).countP (fun c => c.state.isSome && !c.notifyScheduled) =
      cs.countP fun c => c.state.isSome && !c.notifyScheduled := by
  simp [List.countP_map, Function.comp_def]

/-- `task.cancel()` on every task keeps what the invariant says of the tasks. -/
theorem Inv.cancelAll (hs : Inv s) :
    (∀ c ∈ s.children.map Child.cancel, c.notifyScheduled = true → c.state.isSome = true) ∧
    (s.outer = none → ∀ c ∈ s.children.map Child.cancel, ∀ e,
      c.state = some (.raised e) → c.notifyScheduled = true) ∧
    (∀ rs, s.outer = some (.result rs) → rs = results (s.children.map Child.cancel) ∧
      ∀ c ∈ s.children.map Child.cancel, c.result?.isSome = true) ∧
    (∀ c ∈ s.children.map Child.cancel, c.Settled) := by
  refine ⟨?_, fun ho => ?_, fun rs h => ?_, ?_⟩ <;> simp only [List.mem_map]
  · rintro _ ⟨c, hc, rfl⟩; simpa using hs.scheduled_done c hc
  · rintro _ ⟨c, hc, rfl⟩ e he; simpa using hs.raised_scheduled ho c hc e (by simpa using he)
  · obtain ⟨rfl, hall⟩ := hs.outer_result rs h
    refine ⟨(results_map_cancel _).symm, ?_⟩
    rintro _ ⟨c, hc, rfl⟩; simpa using hall c hc
  · rintro _ ⟨c, -, rfl⟩; exact settled_cancel c

theorem PyExc.eq_cancelled_of_isException {e : PyExc} (h : e.isException = false) :
    e = .cancelledError := by
  cases e <;> simp_all [PyExc.isException]

/-- The caller is cancelled, by the timer or from outside. -/
theorem Inv.cancelCaller (hs : Inv s) {s' : Gather α} (b : Bool)
    (h : step s (.cancelCaller b) = some s') : Inv s' := by
  simp only [step] at h
  split at h
  · cases h; exact hs
  · next hcaller =>
    have hc : s.caller = none := by simpa using hcaller
    obtain ⟨h1, h2, h3, h4⟩ := hs.cancelAll
    split at h <;> cases h
    · next hpend =>
      have ho : s.outer = none := by simp only [Bool.and_eq_true] at hpend; simpa using hpend.1
      exact ⟨(countP_map_cancel _).symm ▸ hs.nfinished_eq, h1, fun _ => h2 ho,
        fun rs hr => by simp [ho] at hr, fun rs hr => by simp [hc] at hr, fun _ => h4,
        fun e he => by simp [hc] at he⟩
    · exact ⟨hs.nfinished_eq, hs.scheduled_done, hs.raised_scheduled, hs.outer_result,
        hs.caller_result, hs.cancelled_settled, hs.reraised_settled⟩

/-- The caller resumes from `await asyncio.gather(*tasks)`. -/
theorem Inv.wake (hs : Inv s) {s' : Gather α} (h : step s .wake = some s') : Inv s' := by
  simp only [step] at h
  split at h
  · next hw =>
    have hc : s.caller = none := by simp only [Bool.and_eq_true] at hw; simpa using hw.2
    obtain ⟨h1, h2, h3, h4⟩ := hs.cancelAll
    split at h
    · next o ho =>
      split at h
      · -- resumed with the outer future's results
        next hexc =>
        cases h
        refine ⟨hs.nfinished_eq, hs.scheduled_done, hs.raised_scheduled, hs.outer_result,
          fun rs hr => ?_, hs.cancelled_settled, fun e he => ?_⟩
        · simp only [Option.some.injEq] at hr; rw [ho, hr]
        · simp only [Option.some.injEq] at he; subst he
          split at hexc <;> simp at hexc
      · next e hexc =>
        split at h <;> cases h
        · -- `except Exception`: cancel the tasks still running and re-raise
          exact ⟨(countP_map_cancel _).symm ▸ hs.nfinished_eq, h1, h2, h3,
            fun rs hr => by simp at hr, fun _ => h4, fun _ _ _ _ => h4⟩
        · -- `CancelledError` passes through `except Exception`
          next hnotexc =>
          have he := PyExc.eq_cancelled_of_isException (by simpa using hnotexc)
          refine ⟨hs.nfinished_eq, hs.scheduled_done, hs.raised_scheduled, hs.outer_result,
            fun rs hr => by simp at hr, hs.cancelled_settled, fun e' he' h1' h2' => ?_⟩
          simp only [Option.some.injEq, Outcome.raised.injEq] at he'
          split at he'
          · exact absurd he'.symm h1'
          · exact absurd (he'.symm.trans he) h2'
    · cases h
  · cases h

/-- **The invariant holds after every event.** -/
theorem Inv.step (hs : Inv s) {s' : Gather α} {e : Event α} (h : step s e = some s') : Inv s' := by
  cases e with
  | childEnd i o =>
    simp only [FanOut.step] at h
    split at h
    · next c hc =>
      split at h
      · next hn => cases h; exact hs.childEnd hc (by simpa using hn) o
      · cases h
    · cases h
  | notify i =>
    simp only [FanOut.step] at h
    split at h
    · next c hc =>
      split at h
      · next hn => cases h; exact hs.notify hc hn
      · cases h
    · cases h
  | cancelCaller b => exact hs.cancelCaller b h
  | wake => exact hs.wake h

end Steps

/-- **The invariant holds after every run.** -/
theorem Inv.run {s s' : Gather α} (hs : Inv s) {es : List (Event α)}
    (h : FanOut.run s es = some s') : Inv s' := by
  induction es generalizing s with
  | nil => cases h; exact hs
  | cons e es ih =>
    simp only [FanOut.run, Option.bind_eq_some] at h
    obtain ⟨s1, h1, h2⟩ := h
    exact ih (hs.step h1) h2

@[simp] theorem doneCallback_children (s : Gather α) (o : Option (Outcome α)) :
    (doneCallback s o).children = s.children := by
  unfold doneCallback; repeat' split
  all_goals rfl

theorem length_step {s s' : Gather α} {e : Event α} (h : step s e = some s') :
    s'.children.length = s.children.length := by
  cases e <;> simp only [step] at h <;> (repeat' split at h) <;> cases h <;> first | rfl | simp

theorem length_run {s s' : Gather α} {es : List (Event α)} (h : FanOut.run s es = some s') :
    s'.children.length = s.children.length := by
  induction es generalizing s with
  | nil => cases h; rfl
  | cons e es ih =>
    simp only [FanOut.run, Option.bind_eq_some] at h
    obtain ⟨s1, h1, h2⟩ := h
    rw [ih h2, length_step h1]

theorem length_results {cs : List (Child α)} (h : ∀ c ∈ cs, c.result?.isSome = true) :
    (results cs).length = cs.length := by
  induction cs with
  | nil => rfl
  | cons c cs ih =>
    obtain ⟨a, ha⟩ := Option.isSome_iff_exists.mp (h c (List.mem_cons_self c cs))
    simp [results, List.filterMap_cons, ha, ← ih fun d hd => h d (List.mem_cons_of_mem c hd)]

/-! ## Whole runs -/

section Runs

variable {m : Nat} {es : List (Event α)} {s : Gather α} (h : run (init m) es = some s)
include h

/-- **No partial result**: when the caller returns, every one of the `m` tasks ended with
a result, and the caller returns those results, in task order. -/
theorem returned_all_results {rs : List α} (hr : s.caller = some (.result rs)) :
    rs.length = m ∧ rs = results s.children ∧ ∀ c ∈ s.children, c.result?.isSome = true := by
  have hs := (inv_init m).run h
  obtain ⟨rfl, hall⟩ := hs.outer_result rs (hs.caller_result rs hr)
  refine ⟨?_, rfl, hall⟩
  rw [length_results hall, length_run h]
  simp [init]

end Runs

/-! ## When every task returns -/

/-- A task that returned `a`, its callback run. -/
def Child.returned (a : α) : Child α := ⟨some (.result a), false, false⟩

/-- The last callback has set the outer future's results and queued the caller. -/
def gathered (rs : List α) : Gather α :=
  ⟨rs.map Child.returned, rs.length, some (.result rs), false, false, true, false, none⟩

/-- An event of a schedule in which every task returns: task `i` ends with its result
`rs[i]`, or one of `gather`'s callbacks runs. -/
def Event.Returns (rs : List α) : Event α → Prop
  | .childEnd i (.result a) => rs[i]? = some a
  | .childEnd _ (.raised _) | .cancelCaller _ | .wake => False
  | .notify _ => True

instance Event.decReturns [DecidableEq α] (rs : List α) : (e : Event α) → Decidable (e.Returns rs)
  | .childEnd i (.result a) => inferInstanceAs (Decidable (rs[i]? = some a))
  | .childEnd _ (.raised _) | .cancelCaller _ | .wake => isFalse id
  | .notify _ => isTrue trivial

/-- What a schedule of returning tasks keeps, beside `Inv`: nothing cancels, every task
ends with its own result, the outer future is pending with a task to count or done with
the results and the caller queued, and a task whose callback has run (`es` is the
schedule so far) is done with no callback queued. -/
structure ReturnInv (rs : List α) (es : List (Event α)) (s : Gather α) : Prop where
  quiet : s.cancelRequested = false ∧ s.mustCancel = false ∧ s.timedOut = false ∧
    s.caller = none
  child_ok : ∀ (i : Nat) (c : Child α), s.children[i]? = some c → c.cancelCalled = false ∧
    ∀ o, c.state = some o → ∃ a, rs[i]? = some a ∧ o = .result a
  outer_ok : (s.outer = none ∧ s.nfinished < s.children.length) ∨
    (s.outer = some (.result (results s.children)) ∧ s.wakeScheduled = true)
  notified : ∀ i, .notify i ∈ es → ∀ c : Child α, s.children[i]? = some c →
    c.state.isSome = true ∧ c.notifyScheduled = false

theorem returnInv_init (rs : List α) (hne : rs ≠ []) : ReturnInv rs [] (init rs.length) where
  quiet := ⟨rfl, rfl, rfl, rfl⟩
  child_ok i c h := by
    simp only [init, List.getElem?_replicate] at h
    split at h <;> cases h
    exact ⟨rfl, fun o ho => by cases ho⟩
  outer_ok := .inl ⟨rfl, by simpa [init, List.length_pos] using hne⟩
  notified i h := by cases h

section Returning

variable {rs : List α} {es : List (Event α)} {s s' : Gather α}

theorem ReturnInv.childEnd (hs : Inv s) (hr : ReturnInv rs es s) {i : Nat} {a : α}
    (ha : rs[i]? = some a) (h : step s (.childEnd i (.result a)) = some s') :
    ReturnInv rs (es ++ [.childEnd i (.result a)]) s' := by
  simp only [step] at h
  split at h
  · next c hc =>
    split at h
    · next hn =>
      cases h
      have hnone : c.state = none := by simpa using hn
      -- the outer future waits for task `i`
      have ho : s.outer = none ∧ s.nfinished < s.children.length := by
        refine hr.outer_ok.resolve_right fun ⟨hres, _⟩ => ?_
        have := (hs.outer_result _ hres).2 c (mem_of_getElem? hc)
        simp [Child.result?, hnone] at this
      refine ⟨hr.quiet, fun j d hd => ?_, .inl (by simpa using ho), fun j hj d hd => ?_⟩
      · rw [List.getElem?_set] at hd
        split_ifs at hd with hij
        · subst hij
          cases hd
          exact ⟨(hr.child_ok _ c hc).1, fun o ho => ⟨a, ha, by cases ho; rfl⟩⟩
        · exact hr.child_ok j d hd
      · have hj : Event.notify j ∈ es := by simpa using hj
        rw [List.getElem?_set] at hd
        split_ifs at hd with hij
        · subst hij
          have := (hr.notified _ hj c hc).1
          simp [hnone] at this
        · exact hr.notified j hj d hd
    · cases h
  · cases h

/-- `gather`'s callback for a task that returned: it sets the results once it has counted
the last task, if the outer future is still pending. -/
theorem doneCallback_result (s : Gather α) (a : α) :
    doneCallback s (some (.result a)) =
      if s.outer.isNone ∧ s.nfinished = s.children.length then
        { s with
          outer := some (if s.cancelRequested then .raised .cancelledError
            else .result (results s.children)),
          wakeScheduled := true }
      else s := by
  unfold doneCallback
  cases s.outer <;> simp

theorem ReturnInv.notify (hs : Inv s) (hr : ReturnInv rs es s) {i : Nat}
    (h : step s (.notify i) = some s') : ReturnInv rs (es ++ [.notify i]) s' := by
  simp only [step] at h
  split at h
  · next c hc =>
    split at h
    · next hsch =>
      cases h
      obtain ⟨hi, hci⟩ := List.getElem?_eq_some.mp hc
      obtain ⟨o, ho⟩ := Option.isSome_iff_exists.mp (hs.scheduled_done c (mem_of_getElem? hc) hsch)
      obtain ⟨a, ha, rfl⟩ := (hr.child_ok i c hc).2 o ho
      rw [ho, doneCallback_result]
      generalize hc' : (⟨some (.result a), c.cancelCalled, false⟩ : Child α) = c'
      have hres : results (s.children.set i c') = results s.children :=
        filterMap_set_of_eq _ _ _ _ hi (by rw [hci, ← hc']; simp [Child.result?, ho])
      obtain ⟨hq1, hq2, hq3, hq4⟩ := hr.quiet
      have hchild : ∀ j d, (s.children.set i c')[j]? = some d →
          (d.cancelCalled = false ∧ ∀ o, d.state = some o → ∃ a, rs[j]? = some a ∧ o = .result a) ∧
          (.notify j ∈ es ++ [.notify i] → d.state.isSome = true ∧ d.notifyScheduled = false) := by
        intro j d hd
        rw [List.getElem?_set] at hd
        split_ifs at hd with hij
        · subst hij
          cases hd
          rw [← hc']
          exact ⟨⟨(hr.child_ok _ c hc).1, fun o ho => ⟨a, ha, by cases ho; rfl⟩⟩,
            fun _ => ⟨rfl, rfl⟩⟩
        · refine ⟨hr.child_ok j d hd, fun hj => hr.notified j ?_ d hd⟩
          exact (List.mem_append.mp hj).resolve_right fun h => hij (by simp at h; exact h.symm)
      dsimp only
      split
      · -- the last task is counted: the outer future takes every result
        exact ⟨⟨hq1, hq2, hq3, hq4⟩, fun j d hd => (hchild j d hd).1,
          .inr ⟨by simp [hq1, hres], rfl⟩, fun j hj d hd => (hchild j d hd).2 hj⟩
      · next hnot =>
        refine ⟨⟨hq1, hq2, hq3, hq4⟩, fun j d hd => (hchild j d hd).1, ?_,
          fun j hj d hd => (hchild j d hd).2 hj⟩
        rcases hr.outer_ok with ⟨hon, hlt⟩ | ⟨hres', hw⟩
        · refine .inl ⟨hon, ?_⟩
          have : s.nfinished + 1 ≠ s.children.length := fun heq =>
            hnot ⟨by simp [hon], by simpa using heq⟩
          simp only [List.length_set]
          omega
        · exact .inr ⟨by simpa [hres] using hres', hw⟩
    · cases h
  · cases h

end Returning

/-- A schedule in which every task returns keeps `ReturnInv`. -/
theorem ReturnInv.run {rs : List α} :
    ∀ {es es' : List (Event α)} {s s' : Gather α}, Inv s → ReturnInv rs es s →
      (∀ e ∈ es', e.Returns rs) → FanOut.run s es' = some s' → ReturnInv rs (es ++ es') s'
  | es, [], s, s', _, hr, _, h => by cases h; simpa using hr
  | es, e :: es', s, s', hs, hr, hes, h => by
    simp only [FanOut.run, Option.bind_eq_some] at h
    obtain ⟨s₁, h₁, h₂⟩ := h
    have hr₁ : ReturnInv rs (es ++ [e]) s₁ := by
      have he := hes e (List.mem_cons_self e es')
      cases e with
      | childEnd i o =>
        cases o with
        | result a => exact hr.childEnd hs he h₁
        | raised _ => exact he.elim
      | notify i => exact hr.notify hs h₁
      | cancelCaller _ | wake => exact he.elim
    simpa using ReturnInv.run (hs.step h₁) hr₁ (fun e he => hes e (List.mem_cons_of_mem _ he)) h₂

/-- **Every schedule in which every task returns ends in one state**: once every task's
callback has run, whatever the order of the tasks' ends and of the callbacks, the outer
future holds all the results in task order and the caller's wake-up is queued. -/
theorem returning_run_gathered {rs : List α} (hne : rs ≠ []) {es : List (Event α)}
    {s : Gather α} (hes : ∀ e ∈ es, e.Returns rs) (hall : ∀ i < rs.length, .notify i ∈ es)
    (h : run (init rs.length) es = some s) : s = gathered rs := by
  have hs := (inv_init rs.length).run h
  have hr := (returnInv_init rs hne).run (inv_init _) hes h
  rw [List.nil_append] at hr
  have hlen : s.children.length = rs.length := by rw [length_run h]; simp [init]
  -- every task is done with its own result, its callback run
  have hchildren : s.children = rs.map Child.returned := by
    apply List.ext_getElem?
    intro i
    by_cases hi : i < rs.length
    · obtain ⟨c, hc⟩ : ∃ c, s.children[i]? = some c :=
        ⟨_, List.getElem?_eq_getElem (hlen ▸ hi)⟩
      obtain ⟨hsome, hns⟩ := hr.notified i (hall i hi) c hc
      obtain ⟨hcc, hst⟩ := hr.child_ok i c hc
      obtain ⟨o, ho⟩ := Option.isSome_iff_exists.mp hsome
      obtain ⟨a, ha, rfl⟩ := hst o ho
      obtain ⟨st, cc, ns⟩ := c
      simp only at ho hcc hns
      subst ho hcc hns
      rw [hc, List.getElem?_map, ha]
      rfl
    · rw [List.getElem?_eq_none (by omega), List.getElem?_eq_none (by simp; omega)]
  have hres : results s.children = rs := by
    simp [hchildren, results, List.filterMap_map, Function.comp_def, Child.returned,
      Child.result?]
  have hnf : s.nfinished = rs.length := by
    rw [hs.nfinished_eq, List.countP_eq_length.mpr, hlen]
    simp [hchildren, Child.returned]
  obtain ⟨hq1, hq2, hq3, hq4⟩ := hr.quiet
  rcases hr.outer_ok with ⟨-, hlt⟩ | ⟨ho, hw⟩
  · omega
  · obtain ⟨children, nfinished, outer, cr, mc, ws, tmo, caller⟩ := s
    simp only at hchildren hres hnf hq1 hq2 hq3 hq4 ho hw
    subst hchildren hnf hq1 hq2 hq3 hq4 hw
    rw [hres] at ho
    subst ho
    rfl

/-- **A task's own exception settles every sibling**: when the caller re-raises an
exception of a task (anything but a timeout or a cancellation), `except Exception` has
cancelled every task still running. -/
theorem ownError_settles_tasks (m : Nat) (es : List (Event α)) (s : Gather α)
    (h : run (init m) es = some s) (e : PyExc) (he : s.caller = some (.raised e))
    (h1 : e ≠ .timeoutError) (h2 : e ≠ .cancelledError) : ∀ c ∈ s.children, c.Settled :=
  ((inv_init m).run h).reraised_settled e he h1 h2

theorem ownError_settles_tasks_connection_reset :
    (⟨some (.raised .connectionError), false, false⟩ : Child FetchResult).Settled ∧
      (⟨none, true, false⟩ : Child FetchResult).Settled :=
  let h := ownError_settles_tasks 2 [.childEnd 0 (.raised .connectionError), .notify 0, .wake]
    ⟨[⟨some (.raised .connectionError), false, false⟩, ⟨none, true, false⟩], 1,
      some (.raised .connectionError), false, false, false, false,
      some (.raised .connectionError)⟩ rfl .connectionError rfl (by decide) (by decide)
  ⟨h _ (List.mem_cons_self _ _), h _ (List.mem_cons_of_mem _ (List.mem_singleton_self _))⟩


/-! ## `get_many` -/

theorem insertNodeResult_clientError {withCas returnFlags : Bool} {d d' : PyDict Bytes Item}
    {r : FetchResult} (h : insertNodeResult withCas returnFlags d r = .ok d') :
    r.clientError = [] := by
  unfold insertNodeResult at h
  split at h
  · cases h
  · next hne => simpa using hne

/-- The map comes out only if no node's reply carries a client error. -/
theorem itemsResult_clientError {withCas returnFlags : Bool} {rs : List FetchResult}
    {d : PyDict Bytes Item} (h : itemsResult withCas returnFlags rs = .ok d) :
    ∀ r ∈ rs, r.clientError = [] := by
  unfold itemsResult at h
  generalize ([] : PyDict Bytes Item) = acc at h
  induction rs generalizing acc with
  | nil => simp
  | cons r rs ih =>
    rw [List.foldlM_cons] at h
    cases hr : insertNodeResult withCas returnFlags acc r with
    | error e => rw [hr] at h; cases h
    | ok acc' =>
      rw [hr] at h
      intro r' hr'
      rcases List.mem_cons.mp hr' with rfl | hr'
      · exact insertNodeResult_clientError hr
      · exact ih acc' h r' hr'

/-- **`get_many` returns only a map built from every node's reply.**  If the fan-out over
`m` tasks returns and `get_many` makes its map of the replies, then there are `m`
replies, one per task and in task order, and none of them carries a client error. -/
theorem getMany_full_map (c : Client) (keys : List Bytes) (returnFlags : Bool) (m : Nat)
    (es : List (Event FetchResult)) (s : Gather FetchResult) (h : run (init m) es = some s)
    (rs : List FetchResult) (hr : s.caller = some (.result rs)) (d : PyDict Bytes Item)
    (hd : (c.getMany keys returnFlags).finish rs = .ok d) :
    rs.length = m ∧ rs = results s.children ∧ (∀ ch ∈ s.children, ch.result?.isSome = true) ∧
      ∀ r ∈ rs, r.clientError = [] :=
  ⟨(returned_all_results h hr).1, (returned_all_results h hr).2.1,
    (returned_all_results h hr).2.2, itemsResult_clientError hd⟩

theorem getMany_full_map_out_of_order :
    [(⟨[ascii "a"], [ascii "1"], [0], [], []⟩ : FetchResult),
        ⟨[ascii "b"], [ascii "2"], [0], [], []⟩].length = 2 ∧
      [(⟨[ascii "a"], [ascii "1"], [0], [], []⟩ : FetchResult),
          ⟨[ascii "b"], [ascii "2"], [0], [], []⟩] =
        results [Child.returned ⟨[ascii "a"], [ascii "1"], [0], [], []⟩,
          Child.returned ⟨[ascii "b"], [ascii "2"], [0], [], []⟩] ∧
      (∀ ch ∈ [Child.returned (⟨[ascii "a"], [ascii "1"], [0], [], []⟩ : FetchResult),
          Child.returned ⟨[ascii "b"], [ascii "2"], [0], [], []⟩], ch.result?.isSome = true) ∧
      ∀ r ∈ [(⟨[ascii "a"], [ascii "1"], [0], [], []⟩ : FetchResult),
          ⟨[ascii "b"], [ascii "2"], [0], [], []⟩], r.clientError = [] :=
  getMany_full_map ⟨false, false⟩ [ascii "a", ascii "b"] false 2
    [.childEnd 1 (.result ⟨[ascii "b"], [ascii "2"], [0], [], []⟩), .notify 1,
      .childEnd 0 (.result ⟨[ascii "a"], [ascii "1"], [0], [], []⟩), .notify 0, .wake]
    ⟨[.returned ⟨[ascii "a"], [ascii "1"], [0], [], []⟩,
        .returned ⟨[ascii "b"], [ascii "2"], [0], [], []⟩], 2,
      some (.result [⟨[ascii "a"], [ascii "1"], [0], [], []⟩, ⟨[ascii "b"], [ascii "2"], [0], [], []⟩]),
      false, false, false, false,
      some (.result [⟨[ascii "a"], [ascii "1"], [0], [], []⟩, ⟨[ascii "b"], [ascii "2"], [0], [], []⟩])⟩
    rfl _ rfl _ rfl

/-- **A late cancellation leaves a sibling running.**  Task `i` fails; `gather`'s callback
sets the failure on the outer future and queues the caller; before the caller resumes,
`OpTimeout`'s timer fires (`byTimer`), or someone cancels the caller.  The outer future is
already done, so `Task.cancel()` only sets `_must_cancel`, and the caller resumes with
`CancelledError`, which `except Exception` does not catch: the caller raises
`TimeoutError` (or `CancelledError`), and task `j` is still running and has never had
`cancel()` called on it. -/
theorem late_cancel_leaves_sibling (m i j : Nat) (hi : i < m) (hj : j < m) (hij : i ≠ j)
    (e : PyExc) (byTimer : Bool) :
    ∃ s, run (init m : Gather α)
        [.childEnd i (.raised e), .notify i, .cancelCaller byTimer, .wake] = some s ∧
      s.caller = some (.raised (if byTimer then .timeoutError else .cancelledError)) ∧
      s.children[j]? = some ⟨none, false, false⟩ := by
  simp [run, step, init, doneCallback, List.getElem?_set, List.getElem?_replicate, hi, hj, hij,
    PyExc.isException]

theorem late_cancel_leaves_sibling_two_nodes :
    ∃ s, run (init 2 : Gather FetchResult)
        [.childEnd 0 (.raised .connectionError), .notify 0, .cancelCaller true, .wake] = some s ∧
      s.caller = some (.raised (if true then .timeoutError else .cancelledError)) ∧
      s.children[1]? = some ⟨none, false, false⟩ :=
  late_cancel_leaves_sibling 2 0 1 (by decide) (by decide) (by decide) .connectionError true

end FanOut
end Emcache
