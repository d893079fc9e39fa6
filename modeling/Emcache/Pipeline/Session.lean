import Emcache.Pipeline.Execute
import Emcache.Pipeline.Grammar

/-!
# A pipeline's session: what each `execute()` sends

> async with client.pipeline(address) as pipe:
>     pipe.get(b"key").set(b"key", b"value")
>     await pipe.execute()

`client.pipeline(address)` makes a `_Pipeline` with an empty stack, and checks nothing.
The stack is then the only state its methods share:

* a builder call appends its frame, or raises and appends nothing;
* `execute()` checks `self.client._closed` and computes `b"".join(self.stack)` before its
  first `await`; the bytes go to one connection of the pipeline's node, and
  `self.stack = []` runs only once the reply has been read in full: if the I/O raises
  (`OpTimeout`, a dropped connection) or the reply does not decode (`result.decode()`,
  `int(...)`), the stack stays;
* `__aexit__` sets `self.stack = []`, whether the block ends normally or by an exception.

An `execute()` is two events, its start and its end, and other events may come between
them: builder calls made while its I/O is in flight, another `execute()`, `close()`, the
exit of the block.  A call pushed in between is cleared with the rest of the stack when
that `execute()` returns normally, although its frame was never sent.  `Session.step`
runs one event and logs what the pipeline did: the calls it pushed, the calls that
raised, the I/O it started, what `execute` returned or raised, and the exits.  The log is
the session as seen from outside; the statements below are about it.

## Results

* `Inv.run`: over every run, the stack is what the calls pushed since the last *reset*
  (a normal return of `execute`, or an exit) push on an empty pipeline (`pending`), and
  every `execute` that started I/O sent the stack of that moment.
* `execute_sends_pending`: so each batch sent is the frames of exactly the calls pushed
  since the last reset.
* `failed_batch_resent`: a batch whose `execute` raised is sent again, at the head of the
  next batch, unless the block exits first.
* `batch_parses_to_requests`: for well-formed calls each batch reads back, under the
  request grammar, as exactly their requests.
-/

namespace Emcache

namespace Pipeline

/-- What happens to a pipeline: a builder call, the start of an `execute()` (its closed
check and `b"".join(self.stack)`, up to its first `await`), the end of an `execute()` in
flight (its I/O returns the connection's reply, or raises), `client.close()`, or the exit
of the `async with` block. -/
inductive SessionEvent where
  | call (c : Call)
  | executeStart
  | executeFinish (io : Except PyExc Bytes)
  | closeClient
  | exit

/-- An entry of a session's log. -/
inductive Trace where
  /-- A builder call appended its frame. -/
  | pushed (c : Call)
  /-- A builder call raised. -/
  | refused (e : PyExc)
  /-- `execute` started its I/O. -/
  | started (d : Dispatch)
  /-- `execute` returned its records. -/
  | returned (records : List Record)
  /-- `execute` raised. -/
  | raised (e : PyExc)
  /-- `__aexit__` ran. -/
  | exited

/-- The pipeline, the client's `_closed`, the number of `execute()` calls whose I/O is in
flight, and the log so far. -/
structure Session where
  pipeline : Pipeline
  closed : Bool
  inFlight : Nat
  log : List Trace

variable (address : Address) (responses : Str → List Groups)

/-- One event of the session, on the pipeline for `address`; `responses` is the scan of
`regex_memcached_responses`, as in `execute`.  An end with no `execute()` in flight
cannot happen, and changes nothing. -/
def Session.step (s : Session) : SessionEvent → Session
  | .call c =>
    match s.pipeline.push c with
    | .ok p => { s with pipeline := p, log := s.log ++ [.pushed c] }
    | .error e => { s with log := s.log ++ [.refused e] }
  | .executeStart =>
    match (execute s.closed address responses s.pipeline).dispatch with
    | .ok (.inr d) => { s with inFlight := s.inFlight + 1, log := s.log ++ [.started d] }
    | .ok (.inl _) => s
    | .error e => { s with log := s.log ++ [.raised e] }
  | .executeFinish io =>
    match s.inFlight with
    | 0 => s
    | n + 1 =>
      match io >>= (execute s.closed address responses s.pipeline).finish with
      | .ok (rs, p) => { s with pipeline := p, inFlight := n, log := s.log ++ [.returned rs] }
      | .error e => { s with inFlight := n, log := s.log ++ [.raised e] }
  | .closeClient => { s with closed := true }
  | .exit => { s with pipeline := ⟨[]⟩, log := s.log ++ [.exited] }

/-- A run of events. -/
def Session.run (s : Session) (es : List SessionEvent) : Session :=
  es.foldl (Session.step address responses) s

/-- `client.pipeline(address)` on a client whose `_closed` is `closed`. -/
def Session.init (closed : Bool) : Session := ⟨⟨[]⟩, closed, 0, []⟩

/-! ## Calls since the last reset -/

/-- Whether an entry empties the stack: a normal return of `execute`, or `__aexit__`. -/
def Trace.resets : Trace → Bool
  | .returned _ | .exited => true
  | _ => false

/-- The call of a `pushed` entry. -/
def Trace.pushedCall : Trace → Option Call
  | .pushed c => some c
  | _ => none

/-- The calls pushed since the last reset of the log: what the stack should hold. -/
def pending (log : List Trace) : List Call :=
  ((log.reverse.takeWhile fun t => !t.resets).reverse).filterMap Trace.pushedCall

@[simp] theorem pending_nil : pending [] = [] := rfl

theorem pending_append_singleton (log : List Trace) (t : Trace) :
    pending (log ++ [t]) =
      if t.resets then [] else pending log ++ [t].filterMap Trace.pushedCall := by
  unfold pending
  rw [List.reverse_append, List.reverse_singleton, List.singleton_append, List.takeWhile_cons]
  cases t.resets
  · simp only [Bool.not_false, ↓reduceIte, List.reverse_cons, List.filterMap_append,
      Bool.false_eq_true]
  · rfl

/-- Entries without a reset add their calls to `pending`. -/
theorem pending_append_of_no_reset (log L : List Trace) (h : ∀ t ∈ L, t.resets = false) :
    pending (log ++ L) = pending log ++ L.filterMap Trace.pushedCall := by
  induction L using List.reverseRecOn with
  | nil => simp
  | append_singleton L t ih =>
    have ht := h t (List.mem_append_right L (List.mem_singleton_self t))
    rw [← List.append_assoc, pending_append_singleton, ht, if_neg Bool.false_ne_true,
      ih fun t' ht' => h t' (List.mem_append_left _ ht'), List.filterMap_append,
      List.append_assoc]

/-- Entries that neither reset nor push leave `pending` as it was. -/
theorem pending_append_of_quiet (log L : List Trace)
    (h : ∀ t ∈ L, t.resets = false ∧ t.pushedCall = none) : pending (log ++ L) = pending log := by
  rw [pending_append_of_no_reset log L fun t ht => (h t ht).1, List.filterMap_eq_nil_iff.mpr
    fun t ht => (h t ht).2, List.append_nil]

theorem pending_append_reset (log : List Trace) {t : Trace} (ht : t.resets = true) :
    pending (log ++ [t]) = [] := by
  rw [pending_append_singleton, if_pos ht]

/-! ## The invariant -/

/-- Every `started` entry of the log sent the stack that the calls pending before it push
on an empty pipeline. -/
def StartedOk (log : List Trace) : Prop :=
  ∀ L₁ d L₂, log = L₁ ++ .started d :: L₂ →
    ∃ p, (Pipeline.mk []).run (pending L₁) = .ok p ∧
      d = .node address (.extractPipelineData p.stack.flatten)

/-- What every reachable session satisfies. -/
structure Inv (s : Session) : Prop where
  stack_eq : (Pipeline.mk []).run (pending s.log) = .ok s.pipeline
  started_ok : StartedOk address s.log

/-- A `started` entry of `log ++ new` is one of `log`'s, or one of `new`'s. -/
theorem started_mem_append {log new L₁ L₂ : List Trace} {d : Dispatch}
    (h : log ++ new = L₁ ++ .started d :: L₂) :
    (∃ L₂', log = L₁ ++ .started d :: L₂') ∨ (∃ M, L₁ = log ++ M ∧ new = M ++ .started d :: L₂) := by
  rcases List.append_eq_append_iff.mp h.symm with ⟨a', hlog, hrest⟩ | ⟨c', hL₁, hnew⟩
  · cases a' with
    | nil => exact .inr ⟨[], by simpa using hlog.symm, by simpa using hrest.symm⟩
    | cons y a'' =>
      obtain ⟨rfl, -⟩ := List.cons.inj hrest
      exact .inl ⟨a'', hlog⟩
  · exact .inr ⟨c', hL₁, hnew⟩

theorem startedOk_nil : StartedOk address [] := fun L₁ d L₂ h => by simp at h

/-- Entries that start no I/O keep every `started` entry right. -/
theorem StartedOk.append_quiet {log new : List Trace} (h : StartedOk address log)
    (hnew : ∀ d, Trace.started d ∉ new) : StartedOk address (log ++ new) := by
  intro L₁ d L₂ hl
  rcases started_mem_append hl with ⟨L₂', hold⟩ | ⟨M, -, hM⟩
  · exact h L₁ d L₂' hold
  · exact absurd (hM ▸ List.mem_append_right M (List.mem_cons_self _ _)) (hnew d)

/-- An `execute` that sent the stack of its moment keeps every `started` entry right. -/
theorem StartedOk.append_started {log rest : List Trace} {d : Dispatch} {p : Pipeline}
    (h : StartedOk address log) (hp : (Pipeline.mk []).run (pending log) = .ok p)
    (hd : d = .node address (.extractPipelineData p.stack.flatten))
    (hrest : ∀ d', Trace.started d' ∉ rest) :
    StartedOk address (log ++ .started d :: rest) := by
  intro L₁ d' L₂ hl
  rcases started_mem_append hl with ⟨L₂', hold⟩ | ⟨M, hL₁, hM⟩
  · exact h L₁ d' L₂' hold
  · cases M with
    | nil =>
      obtain ⟨hdd, -⟩ := List.cons.inj hM
      cases hdd
      rw [hL₁, List.append_nil]
      exact ⟨p, hp, hd⟩
    | cons y M' =>
      obtain ⟨-, hM'⟩ := List.cons.inj hM
      exact absurd (hM' ▸ List.mem_append_right M' (List.mem_cons_self _ _)) (hrest d')

theorem inv_init (closed : Bool) : Inv address (Session.init closed) :=
  ⟨rfl, startedOk_nil address⟩

/-! ## The events, one by one -/

section Steps

variable {s : Session}

/-- The start of `execute()`: a closed client raises `RuntimeError` before any I/O; an
open one sends the stack. -/
theorem step_executeStart :
    s.step address responses .executeStart =
      if s.closed then { s with log := s.log ++ [.raised (.runtimeError clientClosedMsg)] }
      else
        { s with
          inFlight := s.inFlight + 1
          log := s.log ++ [.started (.node address (.extractPipelineData s.pipeline.stack.flatten))] } := by
  unfold Session.step
  cases s.closed <;> rfl

/-- The end of an `execute()` in flight: what its I/O and the decoding of the reply come
to. -/
theorem step_executeFinish {n : Nat} (hn : s.inFlight = n + 1) (io : Except PyExc Bytes) :
    s.step address responses (.executeFinish io) =
      match io >>= (execute s.closed address responses s.pipeline).finish with
      | .ok (rs, p) => { s with pipeline := p, inFlight := n, log := s.log ++ [.returned rs] }
      | .error e => { s with inFlight := n, log := s.log ++ [.raised e] } := by
  simp only [Session.step, hn]

/-- An end with no `execute()` in flight changes nothing. -/
theorem step_executeFinish_idle (hn : s.inFlight = 0) (io : Except PyExc Bytes) :
    s.step address responses (.executeFinish io) = s := by
  simp only [Session.step, hn]

/-- Entries that start no I/O and neither reset nor push keep the invariant. -/
theorem Inv.append_quiet (hs : Inv address s) {L : List Trace}
    (hL : ∀ t ∈ L, t.resets = false ∧ t.pushedCall = none ∧ ∀ d, t ≠ .started d)
    (s' : Session) (hp : s'.pipeline = s.pipeline) (hlog : s'.log = s.log ++ L) :
    Inv address s' := by
  refine ⟨?_, ?_⟩
  · rw [hlog, pending_append_of_quiet _ _ fun t ht => ⟨(hL t ht).1, (hL t ht).2.1⟩, hp]
    exact hs.stack_eq
  · rw [hlog]
    exact hs.started_ok.append_quiet address fun d hd => (hL _ hd).2.2 d rfl

theorem Inv.call (hs : Inv address s) (c : Call) :
    Inv address (s.step address responses (.call c)) := by
  simp only [Session.step]
  cases hp : s.pipeline.push c with
  | error e => exact hs.append_quiet address (by simp [Trace.resets, Trace.pushedCall]) _ rfl rfl
  | ok p =>
    refine ⟨?_, hs.started_ok.append_quiet address (by simp)⟩
    rw [pending_append_of_no_reset _ _ (by simp [Trace.resets]), Pipeline.run_append,
      hs.stack_eq]
    show s.pipeline.run [c] = .ok p
    rw [Pipeline.run, hp]
    rfl

theorem Inv.executeStart (hs : Inv address s) :
    Inv address (s.step address responses .executeStart) := by
  rw [step_executeStart]
  split
  · -- closed: `RuntimeError` before any I/O
    exact hs.append_quiet address (by simp [Trace.resets, Trace.pushedCall]) _ rfl rfl
  · -- open: the stack of this moment is sent
    refine ⟨?_, hs.started_ok.append_started address hs.stack_eq rfl (by simp)⟩
    rw [pending_append_of_quiet _ _ (by simp [Trace.resets, Trace.pushedCall])]
    exact hs.stack_eq

theorem Inv.executeFinish (hs : Inv address s) (io : Except PyExc Bytes) :
    Inv address (s.step address responses (.executeFinish io)) := by
  cases hn : s.inFlight with
  | zero => rw [step_executeFinish_idle address responses hn]; exact hs
  | succ n =>
    rw [step_executeFinish address responses hn]
    split
    · -- the reply was read in full: `self.stack = []`
      next rs p hout =>
      have hp : p = ⟨[]⟩ := by
        cases io with
        | error e => cases hout
        | ok result =>
          have := execute_stack (show (Pipeline.execute s.closed address responses s.pipeline).finish
            result = .ok (rs, p) from hout)
          cases p; cases this; rfl
      subst hp
      refine ⟨?_, hs.started_ok.append_quiet address (by simp)⟩
      rw [pending_append_reset _ (show (Trace.returned rs).resets = true from rfl)]
      rfl
    · -- the I/O or the decoding raised: the stack stays
      exact hs.append_quiet address (by simp [Trace.resets, Trace.pushedCall]) _ rfl rfl

/-- **The invariant holds after every event.** -/
theorem Inv.step (hs : Inv address s) (e : SessionEvent) :
    Inv address (s.step address responses e) := by
  cases e with
  | call c => exact hs.call address responses c
  | executeStart => exact hs.executeStart address responses
  | executeFinish io => exact hs.executeFinish address responses io
  | closeClient => exact ⟨hs.stack_eq, hs.started_ok⟩
  | exit =>
    refine ⟨?_, hs.started_ok.append_quiet address (by simp)⟩
    rw [Session.step, pending_append_reset _ (show Trace.exited.resets = true from rfl)]
    rfl

end Steps

/-- **The invariant holds after every run.** -/
theorem Inv.run {s : Session} (hs : Inv address s) (es : List SessionEvent) :
    Inv address (s.run address responses es) := by
  induction es generalizing s with
  | nil => exact hs
  | cons e es ih => exact ih (hs.step address responses e)

/-! ## What each batch is -/

theorem startedOk_run (closed : Bool) (es : List SessionEvent) :
    StartedOk address ((Session.init closed).run address responses es).log :=
  ((inv_init address closed).run address responses es).started_ok

/-- The batch of a started `execute`, as the frames of the pending calls. -/
theorem StartedOk.frames {log L₁ L₂ : List Trace} {d : Dispatch} (h : StartedOk address log)
    (hl : log = L₁ ++ .started d :: L₂) :
    ∃ fs, List.Forall₂ (fun c f => c.frame = .ok f) (pending L₁) fs ∧
      d = .node address (.extractPipelineData fs.flatten) := by
  obtain ⟨p, hp, rfl⟩ := h L₁ d L₂ hl
  obtain ⟨fs, hfs, rfl⟩ := exists_forall₂_of_run hp
  exact ⟨fs, hfs, rfl⟩

/-- **Each batch is the frames of the calls pushed since the last reset**: in every run of
a session, an `execute` that starts its I/O hands the node's connection the frames of
exactly the calls pushed since the last normal return of `execute` or exit, in order,
those pushed before an `execute` that raised included. -/
theorem execute_sends_pending (closed : Bool) (es : List SessionEvent) {L₁ L₂ : List Trace}
    {d : Dispatch}
    (h : ((Session.init closed).run address responses es).log = L₁ ++ .started d :: L₂) :
    ∃ fs, List.Forall₂ (fun c f => c.frame = .ok f) (pending L₁) fs ∧
      d = .node address (.extractPipelineData fs.flatten) :=
  (startedOk_run address responses closed es).frames address h

/-- A session with a reset, a refused call, and a `touch` pushed while the first
`execute()` was in flight, which the reset clears unsent. -/
theorem execute_sends_pending_after_reset :
    ((Session.init false).run ⟨text "localhost", 11211⟩ (fun _ => [])
        [.call (.get (ascii "k")), .call (.set (ascii "k") (ascii "v") 0 0 false), .executeStart,
          .call (.touch (ascii "k") 0 false), .executeFinish (.ok (ascii "END\r\n")),
          .call (.get (ascii "a b")), .call (.increment (ascii "k") 1 false),
          .call (.delete (ascii "k") false), .executeStart]).log =
      [.pushed (.get (ascii "k")), .pushed (.set (ascii "k") (ascii "v") 0 0 false),
        .started (.node ⟨text "localhost", 11211⟩
          (.extractPipelineData (ascii "get k\r\nset k 0 0 1\r\nv\r\n"))),
        .pushed (.touch (ascii "k") 0 false), .returned [], .refused (.valueError keyInvalidMsg),
        .pushed (.increment (ascii "k") 1 false), .pushed (.delete (ascii "k") false)] ++
        .started (.node ⟨text "localhost", 11211⟩
          (.extractPipelineData (ascii "incr k 1\r\ndelete k\r\n"))) :: [] ∧
    ∃ fs, List.Forall₂ (fun c f => c.frame = .ok f)
        (pending [.pushed (.get (ascii "k")), .pushed (.set (ascii "k") (ascii "v") 0 0 false),
          .started (.node ⟨text "localhost", 11211⟩
            (.extractPipelineData (ascii "get k\r\nset k 0 0 1\r\nv\r\n"))),
          .pushed (.touch (ascii "k") 0 false), .returned [], .refused (.valueError keyInvalidMsg),
          .pushed (.increment (ascii "k") 1 false), .pushed (.delete (ascii "k") false)]) fs ∧
      Dispatch.node ⟨text "localhost", 11211⟩
          (.extractPipelineData (ascii "incr k 1\r\ndelete k\r\n")) =
        .node ⟨text "localhost", 11211⟩ (.extractPipelineData fs.flatten) :=
  ⟨rfl, execute_sends_pending _ (fun _ => []) false
    [.call (.get (ascii "k")), .call (.set (ascii "k") (ascii "v") 0 0 false), .executeStart,
      .call (.touch (ascii "k") 0 false), .executeFinish (.ok (ascii "END\r\n")),
      .call (.get (ascii "a b")), .call (.increment (ascii "k") 1 false),
      .call (.delete (ascii "k") false), .executeStart] rfl⟩

/-- **A batch whose `execute` raised is sent again**: if no reset comes between two
starts of `execute` (the first one raised, on the I/O or on decoding the reply), the
second batch is the first one followed by the frames of the calls pushed in between, so
a server that had already run the first batch (a timeout after the write, a reply that did
not decode) runs commands such as `incr` twice. -/
theorem failed_batch_resent (closed : Bool) (es : List SessionEvent) {L₁ L₂ L₃ : List Trace}
    {d₁ d₂ : Dispatch}
    (h : ((Session.init closed).run address responses es).log =
      L₁ ++ .started d₁ :: (L₂ ++ .started d₂ :: L₃))
    (hL₂ : ∀ t ∈ L₂, t.resets = false) :
    ∃ b₁ fs, d₁ = .node address (.extractPipelineData b₁) ∧
      List.Forall₂ (fun c f => c.frame = .ok f) (L₂.filterMap Trace.pushedCall) fs ∧
      d₂ = .node address (.extractPipelineData (b₁ ++ fs.flatten)) := by
  have hs := startedOk_run address responses closed es
  obtain ⟨p₂, hp₂, rfl⟩ := hs (L₁ ++ .started d₁ :: L₂) d₂ L₃
    (by rw [h, List.append_assoc, List.cons_append])
  rw [pending_append_of_no_reset L₁ (.started d₁ :: L₂) (List.forall_mem_cons.mpr ⟨rfl, hL₂⟩),
    run_append] at hp₂
  obtain ⟨p₁, hp₁, rfl⟩ := hs L₁ d₁ _ h
  rw [hp₁] at hp₂
  obtain ⟨fs, hfs, rfl⟩ := exists_forall₂_of_run (show p₁.run _ = .ok p₂ from hp₂)
  exact ⟨_, fs, rfl, hfs, by simp⟩

theorem failed_batch_resent_after_timeout :
    ((Session.init false).run ⟨text "localhost", 11211⟩ (fun _ => [])
        [.call (.increment (ascii "k") 1 false), .executeStart,
          .executeFinish (.error .timeoutError), .call (.get (ascii "k")), .executeStart,
          .executeFinish (.ok [])]).log =
      [.pushed (.increment (ascii "k") 1 false)] ++
        .started (.node ⟨text "localhost", 11211⟩ (.extractPipelineData (ascii "incr k 1\r\n"))) ::
          ([.raised .timeoutError, .pushed (.get (ascii "k"))] ++
            .started (.node ⟨text "localhost", 11211⟩
              (.extractPipelineData (ascii "incr k 1\r\nget k\r\n"))) :: [.returned []]) ∧
    (∀ t ∈ [Trace.raised .timeoutError, .pushed (.get (ascii "k"))], t.resets = false) ∧
    ∃ b₁ fs,
      Dispatch.node ⟨text "localhost", 11211⟩ (.extractPipelineData (ascii "incr k 1\r\n")) =
        .node ⟨text "localhost", 11211⟩ (.extractPipelineData b₁) ∧
      List.Forall₂ (fun c f => c.frame = .ok f)
        ([Trace.raised .timeoutError, .pushed (.get (ascii "k"))].filterMap Trace.pushedCall) fs ∧
      Dispatch.node ⟨text "localhost", 11211⟩
          (.extractPipelineData (ascii "incr k 1\r\nget k\r\n")) =
        .node ⟨text "localhost", 11211⟩ (.extractPipelineData (b₁ ++ fs.flatten)) :=
  ⟨rfl, by decide, @failed_batch_resent _ (fun _ => []) false
    [.call (.increment (ascii "k") 1 false), .executeStart, .executeFinish (.error .timeoutError),
      .call (.get (ascii "k")), .executeStart, .executeFinish (.ok [])]
    [.pushed (.increment (ascii "k") 1 false)] _ [.returned []] _ _ rfl (by decide)⟩

/-- Well-formed calls frame to their wire form, so a chain of them pushes exactly that. -/
theorem forall₂_frame_eq_wires {cs : List Call} {fs : List Bytes}
    (hwf : ∀ c ∈ cs, c.WellFormed = true)
    (h : List.Forall₂ (fun c f => c.frame = .ok f) cs fs) : fs = cs.map Call.wire := by
  induction h with
  | nil => rfl
  | @cons c f cs fs hf _ ih =>
    have hw : f = c.wire :=
      Except.ok.inj (hf.symm.trans (Call.frame_eq (hwf c (List.mem_cons_self c cs))))
    rw [List.map_cons, hw, ih fun c' hc' => hwf c' (List.mem_cons_of_mem c hc')]

/-- **Each batch of well-formed calls reads back as their requests**: in every run of a
session, when the calls pushed since the last reset are well formed, the bytes a started
`execute` sends parse, under the request grammar, to exactly their requests, in order. -/
theorem batch_parses_to_requests (closed : Bool) (es : List SessionEvent)
    {L₁ L₂ : List Trace} {d : Dispatch}
    (h : ((Session.init closed).run address responses es).log = L₁ ++ .started d :: L₂)
    (hwf : ∀ c ∈ pending L₁, c.WellFormed = true) :
    ∃ commands, d = .node address (.extractPipelineData commands) ∧
      parseRequests commands = some ((pending L₁).map Call.request) := by
  obtain ⟨fs, hfs, rfl⟩ := (startedOk_run address responses closed es).frames address h
  rw [forall₂_frame_eq_wires hwf hfs]
  exact ⟨_, rfl, parseRequestsAux_wires hwf (length_le_flatten_wires _)⟩

theorem batch_parses_to_requests_after_reset :
    ((Session.init false).run ⟨text "localhost", 11211⟩ (fun _ => [])
        [.call (.get (ascii "k")), .call (.set (ascii "k") (ascii "v") 0 0 false), .executeStart,
          .call (.touch (ascii "k") 0 false), .executeFinish (.ok (ascii "END\r\n")),
          .call (.get (ascii "a b")), .call (.increment (ascii "k") 1 false),
          .call (.delete (ascii "k") false), .executeStart]).log =
      [.pushed (.get (ascii "k")), .pushed (.set (ascii "k") (ascii "v") 0 0 false),
        .started (.node ⟨text "localhost", 11211⟩
          (.extractPipelineData (ascii "get k\r\nset k 0 0 1\r\nv\r\n"))),
        .pushed (.touch (ascii "k") 0 false), .returned [], .refused (.valueError keyInvalidMsg),
        .pushed (.increment (ascii "k") 1 false), .pushed (.delete (ascii "k") false)] ++
        .started (.node ⟨text "localhost", 11211⟩
          (.extractPipelineData (ascii "incr k 1\r\ndelete k\r\n"))) :: [] ∧
    (∀ c ∈ pending [.pushed (.get (ascii "k")), .pushed (.set (ascii "k") (ascii "v") 0 0 false),
          .started (.node ⟨text "localhost", 11211⟩
            (.extractPipelineData (ascii "get k\r\nset k 0 0 1\r\nv\r\n"))),
          .pushed (.touch (ascii "k") 0 false), .returned [], .refused (.valueError keyInvalidMsg),
          .pushed (.increment (ascii "k") 1 false), .pushed (.delete (ascii "k") false)], c.WellFormed = true) ∧
    ∃ commands,
      Dispatch.node ⟨text "localhost", 11211⟩
          (.extractPipelineData (ascii "incr k 1\r\ndelete k\r\n")) =
        .node ⟨text "localhost", 11211⟩ (.extractPipelineData commands) ∧
      parseRequests commands = some ((pending [.pushed (.get (ascii "k")), .pushed (.set (ascii "k") (ascii "v") 0 0 false),
          .started (.node ⟨text "localhost", 11211⟩
            (.extractPipelineData (ascii "get k\r\nset k 0 0 1\r\nv\r\n"))),
          .pushed (.touch (ascii "k") 0 false), .returned [], .refused (.valueError keyInvalidMsg),
          .pushed (.increment (ascii "k") 1 false), .pushed (.delete (ascii "k") false)]).map Call.request) :=
  ⟨rfl, by decide, batch_parses_to_requests _ (fun _ => []) false
    [.call (.get (ascii "k")), .call (.set (ascii "k") (ascii "v") 0 0 false), .executeStart,
      .call (.touch (ascii "k") 0 false), .executeFinish (.ok (ascii "END\r\n")),
      .call (.get (ascii "a b")), .call (.increment (ascii "k") 1 false),
      .call (.delete (ascii "k") false), .executeStart] rfl (by decide)⟩

end Pipeline

end Emcache
