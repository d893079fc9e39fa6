import Emcache.Client.Facade

/-!
# Closing a client: a terminal state over every run

> async def close(self) -> None:
>     if self._closed:
>         return
>     self._closed = True
>     await self._cluster.close()

A client lives on one event loop, so the code of a coroutine between two suspensions runs
without interruption.  A run is a sequence of such pieces (`Step`):

* `invoke op`: a call of a method runs up to its `await` on the connection
  (`Client.io`): it raises, returns, or starts I/O, and the log records which;
* `close`: a call of `close()` runs up to `await self._cluster.close()`, or returns at once
  on a closed client;
* `closeDone`: a suspended `close()` resumes and returns.

What a method does after its `await` reads nothing of the client, so those steps are left
out; so is the cluster's own closing, which the client only starts.

A run starts from the client `create_client` returns: its checks (the SSL module, the
SASL credentials, at least one node) pass, and `_Client.__init__` sets `_closed = False`.

## Results

* `closed_run`: after any run, the client is closed exactly when the run holds a `close`;
  so `_closed`, once set, stays set.
* `clusterCloses_run`: `Cluster.close` is awaited once if the run holds a `close`, and
  never otherwise, however many `close()` calls overlap.
* `createClient_eq_ok_iff`: `create_client` returns exactly when its checks pass, and then
  an open client, whose world is `World.init`, the first state of every run
  (`createClient_init`); `createClient_error`: otherwise it raises the `ValueError` of the
  check that failed.
* `invoke_after_close`: a call made after a `close` logs `RuntimeError("Emcache client is
  closed")` and nothing else: no node, no connection, no autobatcher.
-/

namespace Emcache
namespace Lifecycle

/-- What a step leaves in the log. -/
inductive Event where
  /-- A call raised before its `await`. -/
  | raised (e : PyExc)
  /-- A call returned before any I/O (`get_many([])`). -/
  | returned
  /-- A call started its I/O. -/
  | started (d : Dispatch)
  /-- `close()` awaited `self._cluster.close()`. -/
  | clusterClose
  deriving DecidableEq, Repr

/-- One piece of one coroutine, up to its next suspension. -/
inductive Step where
  | invoke (op : Op)
  | close
  | closeDone

/-- Whether a step is a call of `close()`. -/
def Step.isClose : Step → Bool
  | .close => true
  | _ => false

/-- The client, the `close()` calls suspended on the cluster, and the log of the run. -/
structure World where
  client : Client
  suspendedCloses : Nat
  log : List Event

/-- The log entry of a call that has run up to its `await`. -/
def Event.ofIO : Except PyExc (Option Dispatch) → Event
  | .error e => .raised e
  | .ok none => .returned
  | .ok (some d) => .started d

/-- One step of the run. -/
def step (w : World) : Step → World
  | .invoke op => { w with log := w.log ++ [Event.ofIO (w.client.io op)] }
  | .close =>
    if w.client.closed then w
    else { client := { w.client with closed := true },
           suspendedCloses := w.suspendedCloses + 1,
           log := w.log ++ [.clusterClose] }
  | .closeDone => { w with suspendedCloses := w.suspendedCloses - 1 }

/-- A run of steps. -/
def run (w : World) (steps : List Step) : World := steps.foldl step w

/-! ## Creating a client -/

/-- `ValueError` of `create_client` when `ssl` is asked for and `import ssl` fails. -/
def sslUnavailableMsg : String := "SSL can not be enabled, no Python SSL module found"

/-- `ValueError` of `create_client` when only one of `username` and `password` is set. -/
def saslPairMsg : String := "For SASL authentication either username and password together"

/-- `ValueError` of `_Client.__init__` on an empty `node_addresses`. -/
def noNodeAddressesMsg : String := "At least one memcached hosts needs to be provided"

/-- `create_client`, then `_Client.__init__` up to its `Cluster`: the checks in the order
the code runs them, and the new client.  `sslAvailable` is whether `import ssl` succeeds;
`username and password` and the rest are tested for truthiness, so an empty string counts
as not given. -/
def createClient (sslAvailable : Bool) (nodeAddresses : List Address) (autobatching ssl : Bool)
    (username password : Option Str) : Except PyExc Client := do
  if ssl && !sslAvailable then throw (.valueError sslUnavailableMsg)
  if !((Pipeline.truthy username && Pipeline.truthy password) ||
      (!Pipeline.truthy username && !Pipeline.truthy password)) then
    throw (.valueError saslPairMsg)
  if nodeAddresses.isEmpty then throw (.valueError noNodeAddressesMsg)
  pure ⟨false, autobatching⟩

/-- The SASL test passes exactly when both credentials are set or neither is. -/
theorem sasl_test_iff (username password : Option Str) :
    ((Pipeline.truthy username && Pipeline.truthy password) ||
      (!Pipeline.truthy username && !Pipeline.truthy password)) = true ↔
      Pipeline.truthy username = Pipeline.truthy password := by
  cases Pipeline.truthy username <;> cases Pipeline.truthy password <;> decide

/-- `create_client` returns exactly when its three checks pass, and then a client that is
open, with the autobatching it was asked for: the first state of every run below. -/
theorem createClient_eq_ok_iff (sslAvailable : Bool) (nodeAddresses : List Address)
    (autobatching ssl : Bool) (username password : Option Str) (c : Client) :
    createClient sslAvailable nodeAddresses autobatching ssl username password = .ok c ↔
      (ssl = true → sslAvailable = true) ∧
      Pipeline.truthy username = Pipeline.truthy password ∧ nodeAddresses ≠ [] ∧
      c = ⟨false, autobatching⟩ := by
  unfold createClient
  rw [← sasl_test_iff]
  generalize ((Pipeline.truthy username && Pipeline.truthy password) ||
      (!Pipeline.truthy username && !Pipeline.truthy password)) = b
  cases ssl <;> cases sslAvailable <;> cases b <;> cases nodeAddresses <;>
    simp [bind, Except.bind, throw, throwThe, MonadExceptOf.throw, pure, Except.pure, eq_comm]

/-- What `create_client` raises is the `ValueError` of one of its checks. -/
theorem createClient_error {sslAvailable : Bool} {nodeAddresses : List Address}
    {autobatching ssl : Bool} {username password : Option Str} {e : PyExc}
    (h : createClient sslAvailable nodeAddresses autobatching ssl username password = .error e) :
    e = .valueError sslUnavailableMsg ∨ e = .valueError saslPairMsg ∨
      e = .valueError noNodeAddressesMsg := by
  simp only [createClient] at h
  repeat' split at h
  all_goals first | (cases h; simp) | cases h

/-- A new client: open, nothing logged. -/
def World.init (autobatching : Bool) : World := ⟨⟨false, autobatching⟩, 0, []⟩

/-- **Every run starts from the client `create_client` returns**: the world of that client,
before any step, is `World.init` of the autobatching it was asked for. -/
theorem createClient_init {sslAvailable : Bool} {nodeAddresses : List Address}
    {autobatching ssl : Bool} {username password : Option Str} {c : Client}
    (h : createClient sslAvailable nodeAddresses autobatching ssl username password = .ok c) :
    (⟨c, 0, []⟩ : World) = World.init autobatching := by
  rw [((createClient_eq_ok_iff _ _ _ _ _ _ c).mp h).2.2.2]
  rfl

@[simp] theorem run_nil (w : World) : run w [] = w := rfl

@[simp] theorem run_append (w : World) (s t : List Step) : run w (s ++ t) = run (run w s) t :=
  List.foldl_append _ _ _ _

@[simp] theorem run_singleton (w : World) (s : Step) : run w [s] = step w s := rfl

/-! ## One step -/

theorem closed_step (w : World) (s : Step) :
    (step w s).client.closed = (w.client.closed || s.isClose) := by
  cases s with
  | invoke op => simp [step, Step.isClose]
  | close => by_cases h : w.client.closed <;> simp [step, Step.isClose, h]
  | closeDone => simp [step, Step.isClose]

theorem count_ofIO (x : Except PyExc (Option Dispatch)) :
    [Event.ofIO x].count .clusterClose = 0 := by
  rcases x with e | _ | d <;> rfl

/-- The one fact the cluster count rests on: it is `1` on a closed client, `0` on an open
one. -/
def ClusterInv (w : World) : Prop :=
  w.log.count .clusterClose = if w.client.closed then 1 else 0

theorem clusterInv_step {w : World} (h : ClusterInv w) (s : Step) : ClusterInv (step w s) := by
  unfold ClusterInv at *
  cases s with
  | invoke op => simp [step, List.count_append, count_ofIO, h]
  | close =>
    by_cases hc : w.client.closed
    · simp [step, hc, h]
    · simp [step, hc, List.count_append] at h ⊢; exact h
  | closeDone => simpa [step] using h

/-! ## Whole runs -/

/-- **The client is closed after a run exactly when it was, or the run holds a `close`.** -/
theorem closed_run (w : World) (steps : List Step) :
    (run w steps).client.closed = (w.client.closed || steps.any Step.isClose) := by
  induction steps generalizing w with
  | nil => simp
  | cons s ss ih =>
    simp only [run, List.foldl_cons] at ih ⊢
    rw [ih, closed_step, List.any_cons, Bool.or_assoc]

theorem clusterInv_run {w : World} (h : ClusterInv w) (steps : List Step) :
    ClusterInv (run w steps) := by
  induction steps generalizing w with
  | nil => exact h
  | cons s ss ih => exact ih (clusterInv_step h s)

/-- **`Cluster.close` is awaited once if the run holds a `close`, never otherwise.** -/
theorem clusterCloses_run (autobatching : Bool) (steps : List Step) :
    (run (World.init autobatching) steps).log.count .clusterClose =
      if steps.any Step.isClose then 1 else 0 := by
  have := clusterInv_run (w := World.init autobatching) (by simp [ClusterInv, World.init]) steps
  rwa [ClusterInv, closed_run] at this

/-- A call on a closed client logs the `RuntimeError` and nothing else. -/
theorem invoke_after_close {w : World} (h : w.client.closed = true) (op : Op) :
    (step w (.invoke op)).log = w.log ++ [.raised (.runtimeError clientClosedMsg)] := by
  simp [step, Client.io_of_closed h, Event.ofIO]

/-- **Closed is a terminal state.**  Over every run from a new client: `_closed` is set
exactly when a `close()` has run, so it never returns to `False`; `Cluster.close` is
awaited once however many `close()` calls run or overlap; and every call made after a
`close()` began raises `RuntimeError("Emcache client is closed")` and logs nothing else, so
it picks no node, leases no connection and queues no key. -/
theorem closed_is_terminal (autobatching : Bool) (steps : List Step) :
    (run (World.init autobatching) steps).client.closed = steps.any Step.isClose ∧
    (run (World.init autobatching) steps).log.count .clusterClose =
      (if steps.any Step.isClose then 1 else 0) ∧
    ∀ (before after : List Step) (op : Op),
      (run (World.init autobatching) (before ++ .close :: after ++ [.invoke op])).log =
        (run (World.init autobatching) (before ++ .close :: after)).log ++
          [.raised (.runtimeError clientClosedMsg)] := by
  refine ⟨by simp [closed_run, World.init], clusterCloses_run autobatching steps,
    fun before after op => ?_⟩
  rw [run_append, run_singleton]
  refine invoke_after_close ?_ op
  simp [closed_run, World.init, Step.isClose]

end Lifecycle
end Emcache
