import Emcache.Pipeline.Execute

/-!
# `_Client`: the facade methods

Every method of `_Client` that talks to a server has the same shape: a few checks, one
`await` on a leased connection (or on the autobatcher), then a classification of what
came back.  Each method is a `Method` here, under its own name, built from the source's
helpers:

* `_storage_command`, `_incr_decr_command`, `_fetch_command`, `_get_and_touch_command`:
  the closed check, the argument checks of `Validation`, then `pick_node(key)`;
* `_fetch_many_command` and `_get_and_touch_many_command` (`fanOutCommand`): the closed
  check, `return {}` for an empty key list, the key loop, then one task per node;
* `touch`, `delete` and the per-address commands check inline.

The classifications come in families, one definition each: `storageResult` for the six
storage commands (which token means "not stored" is the parameter: none for `set`,
`NOT_STORED` for `add`, `replace`, `append`, `prepend`, `EXISTS` for `cas`),
`incrDecrResult`, `touchDeleteResult` (the success token is the parameter), `okResult`
for `flush_all`, `cache_memlimit` and `verbosity`, and `versionResult` and
`Stats.statsResult` alone.

`Op` is a call of any of these methods, or of `_Pipeline.execute`; `Client.io` is what
such a call does before its `await`: it raises, or it starts I/O.  Each method's `io` has
its own equation (`Client.set_io` and its siblings), which the proofs over every call
rewrite with.

## Results

* `Client.io_of_closed`: on a closed client every call raises
  `RuntimeError("Emcache client is closed")` and starts no I/O, in both routes of
  `get` and `gets` and in `_Pipeline.execute`.
* `Client.io_eq_error_iff`, `Op.check_error`: on an open client without autobatching, a
  call raises before its I/O exactly what its argument checks raise, and that is always a
  `ValueError`.
* `argument_checks`: the same, and for the builders of `_Pipeline` that format through a
  helper, which raise when the checks fail or an `int` is too long for `%a`.
* `stats_block_map`: a stats block of space-free names and values comes back as the map
  of its pairs, from `_Client.stats` and from `_Pipeline.execute`.
* The two places a reply reaches a Python conversion unguarded (`incrDecrResult_letter`,
  `versionResult_not_utf8`).
-/

namespace Emcache

/-- What the methods of a `_Client` read of it: `_closed` and `_autobatching`. -/
structure Client where
  closed : Bool
  autobatching : Bool
  deriving DecidableEq, Repr

/-- What `connection.fetch_command` and `connection.get_and_touch_command` hand back:
`keys, values, flags, cas, client_error`, an empty `clientError` being the falsy one. -/
structure FetchResult where
  keys : List Bytes
  values : List Bytes
  flags : List Int
  cas : List Int
  clientError : Bytes
  deriving DecidableEq, Repr

/-! ## The classifications -/

/-- The end of the storage commands, after the `await`:

> if not noreply and result == NOT_STORED: raise NotStoredStorageCommandError()
> elif not noreply and result != STORED: raise StorageCommandError(...)

`notStored` is the token of the first test (`EXISTS` for `cas`); `set` has no first test. -/
def storageResult (notStored : Option Bytes) (noreply : Bool) (result : Bytes) :
    Except PyExc Unit :=
  if !noreply && notStored = some result then .error .notStoredStorageCommandError
  else if !noreply && result ≠ STORED then .error (.storageCommandError result)
  else pure ()

/-- The end of `increment` and `decrement`: `if noreply: return`, `NOT_FOUND` raises
`NotFoundCommandError()`, anything else is `int(result)`. -/
def incrDecrResult (noreply : Bool) (result : Bytes) : Except PyExc (Option Int) :=
  if noreply then pure none
  else if result = NOT_FOUND then .error .notFoundCommandError
  else some <$> pyInt result

/-- The end of `touch` and `delete`, whose success token is `TOUCHED` and `DELETED`. -/
def touchDeleteResult (success : Bytes) (noreply : Bool) (result : Bytes) :
    Except PyExc Unit :=
  if noreply then pure ()
  else if result = NOT_FOUND then .error .notFoundCommandError
  else if result ≠ success then .error (.commandError result)
  else pure ()

/-- The end of `flush_all`, `cache_memlimit` and `verbosity`. -/
def okResult (noreply : Bool) (result : Bytes) : Except PyExc Unit :=
  if noreply then pure ()
  else if result ≠ OK then .error (.commandError result)
  else pure ()

/-- The end of `version`:

> if not result or not result.startswith(VERSION): raise CommandError(...)
> return result.removeprefix(b"VERSION ").decode() -/
def versionResult (result : Bytes) : Except PyExc Str :=
  if result = [] ∨ ¬ VERSION <+: result then .error (.commandError result)
  else match utf8Decode (removePrefix (ascii "VERSION ") result) with
    | none => .error .unicodeDecodeError
    | some s => pure s

/-- The end of `get`, `gets`, `gat` and `gats` on a connection's reply: a client error
raises, a missing key is `None`, and otherwise `Item(values[0], flags[0] or None,
cas[0] or None)`; `withCas` is the `s` of `gets` and `gats`. -/
def itemResult (withCas : Bool) (key : Bytes) (returnFlags : Bool) (r : FetchResult) :
    Except PyExc (Option Item) :=
  if r.clientError ≠ [] then .error (.commandError r.clientError)
  else if key ∉ r.keys then pure none
  else do
    let v ← pyIndex r.values 0
    let f ← if returnFlags then some <$> pyIndex r.flags 0 else pure none
    let cs ← if withCas then some <$> pyIndex r.cas 0 else pure none
    pure (some ⟨v, f, cs⟩)

/-- `results[keys[idx]] = Item(values[idx], ...)` for one index of one node's reply. -/
def insertItem (withCas returnFlags : Bool) (r : FetchResult) (d : PyDict Bytes Item)
    (idx : Nat) : Except PyExc (PyDict Bytes Item) := do
  let v ← pyIndex r.values idx
  let f ← if returnFlags then some <$> pyIndex r.flags idx else pure none
  let cs ← if withCas then some <$> pyIndex r.cas idx else pure none
  let k ← pyIndex r.keys idx
  pure (d.insert k ⟨v, f, cs⟩)

/-- One pass of the loop of `get_many` and its kin over a node's reply. -/
def insertNodeResult (withCas returnFlags : Bool) (d : PyDict Bytes Item) (r : FetchResult) :
    Except PyExc (PyDict Bytes Item) :=
  if r.clientError ≠ [] then .error (.commandError r.clientError)
  else (List.range r.keys.length).foldlM (insertItem withCas returnFlags r) d

/-- The end of `get_many`, `gets_many`, `gat_many` and `gats_many`: the `dict` built over
every node's reply, in order. -/
def itemsResult (withCas returnFlags : Bool) (results : List FetchResult) :
    Except PyExc (PyDict Bytes Item) :=
  results.foldlM (insertNodeResult withCas returnFlags) []

namespace Client

variable (c : Client)

/-! ## The checks before the `await` -/

/-- `if self._closed: raise RuntimeError("Emcache client is closed")`. -/
def checkOpen : Except PyExc Unit :=
  if c.closed then .error (.runtimeError clientClosedMsg) else pure ()

/-- `_Client._storage_command`, up to its `await`. -/
def storageCommand (command key value : Bytes) (flags exptime : Int) (noreply : Bool)
    (cas : Option Int) : Except PyExc Dispatch := do
  c.checkOpen
  checkStorageArgs key flags cas
  pure (.pickNode key (.storageCommand command key value flags exptime noreply cas))

/-- `_Client._incr_decr_command`, up to its `await`. -/
def incrDecrCommand (command key : Bytes) (value : Int) (noreply : Bool) :
    Except PyExc Dispatch := do
  c.checkOpen
  checkIncrDecrArgs key value
  pure (.pickNode key (.incrDecrCommand command key value noreply))

/-- `_Client._fetch_command`, up to its `await`. -/
def fetchCommand (command key : Bytes) : Except PyExc Dispatch := do
  c.checkOpen
  checkKeys [key]
  pure (.pickNode key (.fetchCommand command [key]))

/-- `_Client._get_and_touch_command`, up to its `await`. -/
def getAndTouchCommand (command : Bytes) (exptime : Int) (key : Bytes) :
    Except PyExc Dispatch := do
  c.checkOpen
  checkKeys [key]
  pure (.pickNode key (.getAndTouchCommand command exptime [key]))

/-- The two fan-out helpers up to their tasks: `none` is the early `return {}` of an
empty key list. -/
def fanOutCommand (command : Bytes) (exptime : Option Int) (keys : List Bytes) :
    Except PyExc (Option Dispatch) := do
  c.checkOpen
  if keys = [] then pure none
  else do
    checkKeys keys
    pure (some (.pickNodes command exptime keys))

/-- `_Client._fetch_many_command`, up to its tasks. -/
def fetchManyCommand (command : Bytes) (keys : List Bytes) : Except PyExc (Option Dispatch) :=
  c.fanOutCommand command none keys

/-- `_Client._get_and_touch_many_command`, up to its tasks. -/
def getAndTouchManyCommand (command : Bytes) (exptime : Int) (keys : List Bytes) :
    Except PyExc (Option Dispatch) :=
  c.fanOutCommand command (some exptime) keys

/-- Modelled from the spec: `AutoBatching.execute(key)` of `autobatching.py`, which is
absent, up to its suspension.  A closed client fails the call ("A closed client fails all
calls with a fixed `ClientClosed` error"); otherwise the key joins the batch of its node. -/
def autobatchingExecute (returnFlags returnCas : Bool) (key : Bytes) :
    Except PyExc Dispatch := do
  c.checkOpen
  pure (.autobatch returnFlags returnCas key)

/-- `self._cluster.node(address)` for a per-address command, after the closed check. -/
def nodeCommand (address : Address) (call : ConnCall) : Except PyExc Dispatch := do
  c.checkOpen
  pure (.node address call)

/-! ## The methods -/

/-- A `Method` whose `await` always starts I/O. -/
def withDispatch {ρ α : Type} (d : Except PyExc Dispatch) (finish : ρ → Except PyExc α) :
    Method ρ α :=
  ⟨Sum.inr <$> d, finish⟩

/-- A fan-out `Method`: an empty key list returns `{}` with no I/O. -/
def withFanOut {ρ : Type} (d : Except PyExc (Option Dispatch))
    (finish : ρ → Except PyExc (PyDict Bytes Item)) : Method ρ (PyDict Bytes Item) :=
  ⟨(fun o => match o with | some d => .inr d | none => .inl []) <$> d, finish⟩

/-- `_Client.set`. -/
def set (key value : Bytes) (flags exptime : Int) (noreply : Bool) : Method Bytes Unit :=
  withDispatch (c.storageCommand (ascii "set") key value flags exptime noreply none)
    (storageResult none noreply)

/-- `_Client.add`. -/
def add (key value : Bytes) (flags exptime : Int) (noreply : Bool) : Method Bytes Unit :=
  withDispatch (c.storageCommand (ascii "add") key value flags exptime noreply none)
    (storageResult (some NOT_STORED) noreply)

/-- `_Client.replace`. -/
def replace (key value : Bytes) (flags exptime : Int) (noreply : Bool) : Method Bytes Unit :=
  withDispatch (c.storageCommand (ascii "replace") key value flags exptime noreply none)
    (storageResult (some NOT_STORED) noreply)

/-- `_Client.append`: `flags = 0`, `exptime = 0`. -/
def append (key value : Bytes) (noreply : Bool) : Method Bytes Unit :=
  withDispatch (c.storageCommand (ascii "append") key value 0 0 noreply none)
    (storageResult (some NOT_STORED) noreply)

/-- `_Client.prepend`: `flags = 0`, `exptime = 0`. -/
def prepend (key value : Bytes) (noreply : Bool) : Method Bytes Unit :=
  withDispatch (c.storageCommand (ascii "prepend") key value 0 0 noreply none)
    (storageResult (some NOT_STORED) noreply)

/-- `_Client.cas`: `EXISTS` is its "not stored". -/
def cas (key value : Bytes) (cas flags exptime : Int) (noreply : Bool) : Method Bytes Unit :=
  withDispatch (c.storageCommand (ascii "cas") key value flags exptime noreply (some cas))
    (storageResult (some EXISTS) noreply)

/-- `_Client.increment`. -/
def increment (key : Bytes) (value : Int) (noreply : Bool) : Method Bytes (Option Int) :=
  withDispatch (c.incrDecrCommand (ascii "incr") key value noreply) (incrDecrResult noreply)

/-- `_Client.decrement`. -/
def decrement (key : Bytes) (value : Int) (noreply : Bool) : Method Bytes (Option Int) :=
  withDispatch (c.incrDecrCommand (ascii "decr") key value noreply) (incrDecrResult noreply)

/-- `_Client.touch`: the checks are inline. -/
def touch (key : Bytes) (exptime : Int) (noreply : Bool) : Method Bytes Unit :=
  withDispatch (do c.checkOpen; checkKeys [key]; pure (.pickNode key (.touchCommand key exptime noreply)))
    (touchDeleteResult TOUCHED noreply)

/-- `_Client.delete`: the checks are inline. -/
def delete (key : Bytes) (noreply : Bool) : Method Bytes Unit :=
  withDispatch (do c.checkOpen; checkKeys [key]; pure (.pickNode key (.deleteCommand key noreply)))
    (touchDeleteResult DELETED noreply)

/-- `_Client.flush_all`. -/
def flushAll (address : Address) (delay : Int) (noreply : Bool) : Method Bytes Unit :=
  withDispatch (c.nodeCommand address (.flushAllCommand delay noreply)) (okResult noreply)

/-- `_Client.version`. -/
def version (address : Address) : Method Bytes Str :=
  withDispatch (c.nodeCommand address .versionCommand) versionResult

/-- `_Client.cache_memlimit`. -/
def cacheMemlimit (address : Address) (value : Int) (noreply : Bool) : Method Bytes Unit :=
  withDispatch (c.nodeCommand address (.cacheMemlimitCommand value noreply)) (okResult noreply)

/-- `_Client.stats`. -/
def stats (address : Address) (args : List Str) : Method Bytes (PyDict Str Str) :=
  withDispatch (c.nodeCommand address (.statsCommand args)) Stats.statsResult

/-- `_Client.verbosity`. -/
def verbosity (address : Address) (level : Int) (noreply : Bool) : Method Bytes Unit :=
  withDispatch (c.nodeCommand address (.verbosityCommand level noreply)) (okResult noreply)

/-- What `get` and `gets` awaited: the autobatcher's item, or the connection's reply. -/
abbrev Awaited := Option Item ⊕ FetchResult

/-- `get` and `gets`: with autobatching on, `return await self._autobatching_...execute(key)`;
otherwise `_fetch_command` and `itemResult`. -/
def getOrGets (withCas : Bool) (command key : Bytes) (returnFlags : Bool) :
    Method Awaited (Option Item) :=
  withDispatch
    (if c.autobatching then c.autobatchingExecute returnFlags withCas key
      else c.fetchCommand command key)
    (Sum.elim pure (itemResult withCas key returnFlags))

/-- `_Client.get`. -/
def get (key : Bytes) (returnFlags : Bool) : Method Awaited (Option Item) :=
  c.getOrGets false (ascii "get") key returnFlags

/-- `_Client.gets`. -/
def gets (key : Bytes) (returnFlags : Bool) : Method Awaited (Option Item) :=
  c.getOrGets true (ascii "gets") key returnFlags

/-- `_Client.gat`. -/
def gat (exptime : Int) (key : Bytes) (returnFlags : Bool) : Method FetchResult (Option Item) :=
  withDispatch (c.getAndTouchCommand (ascii "gat") exptime key) (itemResult false key returnFlags)

/-- `_Client.gats`. -/
def gats (exptime : Int) (key : Bytes) (returnFlags : Bool) : Method FetchResult (Option Item) :=
  withDispatch (c.getAndTouchCommand (ascii "gats") exptime key) (itemResult true key returnFlags)

/-- `_Client.get_many`: the reply is every node's, in task order. -/
def getMany (keys : List Bytes) (returnFlags : Bool) :
    Method (List FetchResult) (PyDict Bytes Item) :=
  withFanOut (c.fetchManyCommand (ascii "get") keys) (itemsResult false returnFlags)

/-- `_Client.gets_many`. -/
def getsMany (keys : List Bytes) (returnFlags : Bool) :
    Method (List FetchResult) (PyDict Bytes Item) :=
  withFanOut (c.fetchManyCommand (ascii "gets") keys) (itemsResult true returnFlags)

/-- `_Client.gat_many`. -/
def gatMany (exptime : Int) (keys : List Bytes) (returnFlags : Bool) :
    Method (List FetchResult) (PyDict Bytes Item) :=
  withFanOut (c.getAndTouchManyCommand (ascii "gat") exptime keys) (itemsResult false returnFlags)

/-- `_Client.gats_many`. -/
def gatsMany (exptime : Int) (keys : List Bytes) (returnFlags : Bool) :
    Method (List FetchResult) (PyDict Bytes Item) :=
  withFanOut (c.getAndTouchManyCommand (ascii "gats") exptime keys) (itemsResult true returnFlags)


/-! ## What each method does before its `await`

`Method.io` of each method, as the helper it calls: the proofs over every call rewrite
with these and unfold the helpers only. -/

theorem withDispatch_io {ρ α : Type} (d : Except PyExc Dispatch) (finish : ρ → Except PyExc α) :
    (withDispatch d finish).io = some <$> d := by
  cases d <;> rfl

theorem withFanOut_io {ρ : Type} (d : Except PyExc (Option Dispatch))
    (finish : ρ → Except PyExc (PyDict Bytes Item)) : (withFanOut d finish).io = d := by
  rcases d with _ | _ | _ <;> rfl

@[simp] theorem set_io (key value : Bytes) (flags exptime : Int) (noreply : Bool) :
    (c.set key value flags exptime noreply).io =
      some <$> c.storageCommand (ascii "set") key value flags exptime noreply none :=
  withDispatch_io _ _

@[simp] theorem add_io (key value : Bytes) (flags exptime : Int) (noreply : Bool) :
    (c.add key value flags exptime noreply).io =
      some <$> c.storageCommand (ascii "add") key value flags exptime noreply none :=
  withDispatch_io _ _

@[simp] theorem replace_io (key value : Bytes) (flags exptime : Int) (noreply : Bool) :
    (c.replace key value flags exptime noreply).io =
      some <$> c.storageCommand (ascii "replace") key value flags exptime noreply none :=
  withDispatch_io _ _

@[simp] theorem append_io (key value : Bytes) (noreply : Bool) :
    (c.append key value noreply).io =
      some <$> c.storageCommand (ascii "append") key value 0 0 noreply none :=
  withDispatch_io _ _

@[simp] theorem prepend_io (key value : Bytes) (noreply : Bool) :
    (c.prepend key value noreply).io =
      some <$> c.storageCommand (ascii "prepend") key value 0 0 noreply none :=
  withDispatch_io _ _

@[simp] theorem cas_io (key value : Bytes) (cas flags exptime : Int) (noreply : Bool) :
    (c.cas key value cas flags exptime noreply).io =
      some <$> c.storageCommand (ascii "cas") key value flags exptime noreply (some cas) :=
  withDispatch_io _ _

@[simp] theorem increment_io (key : Bytes) (value : Int) (noreply : Bool) :
    (c.increment key value noreply).io =
      some <$> c.incrDecrCommand (ascii "incr") key value noreply :=
  withDispatch_io _ _

@[simp] theorem decrement_io (key : Bytes) (value : Int) (noreply : Bool) :
    (c.decrement key value noreply).io =
      some <$> c.incrDecrCommand (ascii "decr") key value noreply :=
  withDispatch_io _ _

@[simp] theorem touch_io (key : Bytes) (exptime : Int) (noreply : Bool) :
    (c.touch key exptime noreply).io = some <$> (do
      c.checkOpen; checkKeys [key]; pure (.pickNode key (.touchCommand key exptime noreply))) :=
  withDispatch_io _ _

@[simp] theorem delete_io (key : Bytes) (noreply : Bool) :
    (c.delete key noreply).io = some <$> (do
      c.checkOpen; checkKeys [key]; pure (.pickNode key (.deleteCommand key noreply))) :=
  withDispatch_io _ _

@[simp] theorem flushAll_io (address : Address) (delay : Int) (noreply : Bool) :
    (c.flushAll address delay noreply).io =
      some <$> c.nodeCommand address (.flushAllCommand delay noreply) :=
  withDispatch_io _ _

@[simp] theorem version_io (address : Address) :
    (c.version address).io = some <$> c.nodeCommand address .versionCommand :=
  withDispatch_io _ _

@[simp] theorem cacheMemlimit_io (address : Address) (value : Int) (noreply : Bool) :
    (c.cacheMemlimit address value noreply).io =
      some <$> c.nodeCommand address (.cacheMemlimitCommand value noreply) :=
  withDispatch_io _ _

@[simp] theorem stats_io (address : Address) (args : List Str) :
    (c.stats address args).io = some <$> c.nodeCommand address (.statsCommand args) :=
  withDispatch_io _ _

@[simp] theorem verbosity_io (address : Address) (level : Int) (noreply : Bool) :
    (c.verbosity address level noreply).io =
      some <$> c.nodeCommand address (.verbosityCommand level noreply) :=
  withDispatch_io _ _

@[simp] theorem get_io (key : Bytes) (returnFlags : Bool) :
    (c.get key returnFlags).io = some <$> (if c.autobatching then
      c.autobatchingExecute returnFlags false key else c.fetchCommand (ascii "get") key) :=
  withDispatch_io _ _

@[simp] theorem gets_io (key : Bytes) (returnFlags : Bool) :
    (c.gets key returnFlags).io = some <$> (if c.autobatching then
      c.autobatchingExecute returnFlags true key else c.fetchCommand (ascii "gets") key) :=
  withDispatch_io _ _

@[simp] theorem gat_io (exptime : Int) (key : Bytes) (returnFlags : Bool) :
    (c.gat exptime key returnFlags).io = some <$> c.getAndTouchCommand (ascii "gat") exptime key :=
  withDispatch_io _ _

@[simp] theorem gats_io (exptime : Int) (key : Bytes) (returnFlags : Bool) :
    (c.gats exptime key returnFlags).io =
      some <$> c.getAndTouchCommand (ascii "gats") exptime key :=
  withDispatch_io _ _

@[simp] theorem getMany_io (keys : List Bytes) (returnFlags : Bool) :
    (c.getMany keys returnFlags).io = c.fanOutCommand (ascii "get") none keys :=
  withFanOut_io _ _

@[simp] theorem getsMany_io (keys : List Bytes) (returnFlags : Bool) :
    (c.getsMany keys returnFlags).io = c.fanOutCommand (ascii "gets") none keys :=
  withFanOut_io _ _

@[simp] theorem gatMany_io (exptime : Int) (keys : List Bytes) (returnFlags : Bool) :
    (c.gatMany exptime keys returnFlags).io = c.fanOutCommand (ascii "gat") (some exptime) keys :=
  withFanOut_io _ _

@[simp] theorem gatsMany_io (exptime : Int) (keys : List Bytes) (returnFlags : Bool) :
    (c.gatsMany exptime keys returnFlags).io =
      c.fanOutCommand (ascii "gats") (some exptime) keys :=
  withFanOut_io _ _

end Client

/-- `_Pipeline.execute` before its `await`: the closed check, then the write. -/
@[simp] theorem Pipeline.execute_io (closed : Bool) (address : Address)
    (responses : Str → List Pipeline.Groups) (p : Pipeline) :
    (Pipeline.execute closed address responses p).io =
      if closed then .error (.runtimeError clientClosedMsg)
      else .ok (some (.node address (.extractPipelineData p.stack.flatten))) := by
  cases closed <;> rfl

/-! ## Any call -/

/-- A call of a `_Client` method that talks to a server, or of `_Pipeline.execute`. -/
inductive Op where
  | set (key value : Bytes) (flags exptime : Int) (noreply : Bool)
  | add (key value : Bytes) (flags exptime : Int) (noreply : Bool)
  | replace (key value : Bytes) (flags exptime : Int) (noreply : Bool)
  | append (key value : Bytes) (noreply : Bool)
  | prepend (key value : Bytes) (noreply : Bool)
  | cas (key value : Bytes) (cas flags exptime : Int) (noreply : Bool)
  | increment (key : Bytes) (value : Int) (noreply : Bool)
  | decrement (key : Bytes) (value : Int) (noreply : Bool)
  | touch (key : Bytes) (exptime : Int) (noreply : Bool)
  | delete (key : Bytes) (noreply : Bool)
  | flushAll (address : Address) (delay : Int) (noreply : Bool)
  | version (address : Address)
  | cacheMemlimit (address : Address) (value : Int) (noreply : Bool)
  | stats (address : Address) (args : List Str)
  | verbosity (address : Address) (level : Int) (noreply : Bool)
  | get (key : Bytes) (returnFlags : Bool)
  | gets (key : Bytes) (returnFlags : Bool)
  | gat (exptime : Int) (key : Bytes) (returnFlags : Bool)
  | gats (exptime : Int) (key : Bytes) (returnFlags : Bool)
  | getMany (keys : List Bytes) (returnFlags : Bool)
  | getsMany (keys : List Bytes) (returnFlags : Bool)
  | gatMany (exptime : Int) (keys : List Bytes) (returnFlags : Bool)
  | gatsMany (exptime : Int) (keys : List Bytes) (returnFlags : Bool)
  | execute (address : Address) (responses : Str → List Pipeline.Groups) (p : Pipeline)

/-- What a call does before its `await`: it raises, or starts I/O (`none` for the early
`return {}` of an empty key list). -/
def Client.io (c : Client) : Op → Except PyExc (Option Dispatch)
  | .set k v f e n => (c.set k v f e n).io
  | .add k v f e n => (c.add k v f e n).io
  | .replace k v f e n => (c.replace k v f e n).io
  | .append k v n => (c.append k v n).io
  | .prepend k v n => (c.prepend k v n).io
  | .cas k v t f e n => (c.cas k v t f e n).io
  | .increment k v n => (c.increment k v n).io
  | .decrement k v n => (c.decrement k v n).io
  | .touch k e n => (c.touch k e n).io
  | .delete k n => (c.delete k n).io
  | .flushAll a d n => (c.flushAll a d n).io
  | .version a => (c.version a).io
  | .cacheMemlimit a v n => (c.cacheMemlimit a v n).io
  | .stats a args => (c.stats a args).io
  | .verbosity a l n => (c.verbosity a l n).io
  | .get k f => (c.get k f).io
  | .gets k f => (c.gets k f).io
  | .gat e k f => (c.gat e k f).io
  | .gats e k f => (c.gats e k f).io
  | .getMany ks f => (c.getMany ks f).io
  | .getsMany ks f => (c.getsMany ks f).io
  | .gatMany e ks f => (c.gatMany e ks f).io
  | .gatsMany e ks f => (c.gatsMany e ks f).io
  | .execute a r p => (Pipeline.execute c.closed a r p).io

/-- The arguments a call lets through, as the code checks them: valid keys, flags at most
`2^16`, cas at most `2^64`, a non-negative delta.  Calls with none of these pass. -/
def Op.argsOk : Op → Bool
  | .set k _ f _ _ | .add k _ f _ _ | .replace k _ f _ _ =>
    isKeyValid k && decide (f ≤ maxAllowedFlagValue)
  | .append k _ _ | .prepend k _ _ => isKeyValid k
  | .cas k _ t f _ _ =>
    isKeyValid k && decide (f ≤ maxAllowedFlagValue) && decide (t ≤ maxAllowedCasValue)
  | .increment k v _ | .decrement k v _ => isKeyValid k && decide (0 ≤ v)
  | .touch k _ _ | .delete k _ | .get k _ | .gets k _ | .gat _ k _ | .gats _ k _ => isKeyValid k
  | .getMany ks _ | .getsMany ks _ | .gatMany _ ks _ | .gatsMany _ ks _ => ks.all isKeyValid
  | .flushAll .. | .version .. | .cacheMemlimit .. | .stats .. | .verbosity .. | .execute .. =>
    true

/-- The argument checks a call runs before its I/O, as its helper runs them. -/
def Op.check : Op → Except PyExc Unit
  | .set k _ f _ _ | .add k _ f _ _ | .replace k _ f _ _ => checkStorageArgs k f none
  | .append k _ _ | .prepend k _ _ => checkStorageArgs k 0 none
  | .cas k _ t f _ _ => checkStorageArgs k f (some t)
  | .increment k v _ | .decrement k v _ => checkIncrDecrArgs k v
  | .touch k _ _ | .delete k _ | .get k _ | .gets k _ | .gat _ k _ | .gats _ k _ => checkKeys [k]
  | .getMany ks _ | .getsMany ks _ | .gatMany _ ks _ | .gatsMany _ ks _ => checkKeys ks
  | .flushAll .. | .version .. | .cacheMemlimit .. | .stats .. | .verbosity .. | .execute .. =>
    .ok ()

/-! ## The checks -/

/-- **A call on a closed client raises `RuntimeError("Emcache client is closed")` before
any I/O**: the closed check comes first in every method, in `AutoBatching.execute` and
in `_Pipeline.execute`. -/
theorem Client.io_of_closed {c : Client} (h : c.closed = true) (op : Op) :
    c.io op = .error (.runtimeError clientClosedMsg) := by
  have hopen : c.checkOpen = .error (.runtimeError clientClosedMsg) := by
    simp [Client.checkOpen, h]
  cases op <;> simp [Client.io, Client.storageCommand, Client.incrDecrCommand,
    Client.fetchCommand, Client.getAndTouchCommand, Client.fanOutCommand,
    Client.autobatchingExecute, Client.nodeCommand, hopen, error_bind, h]

section Open

variable {c : Client} (hc : c.closed = false)
include hc

theorem Client.checkOpen_of_open : c.checkOpen = pure () := by simp [Client.checkOpen, hc]

theorem Client.fanOutCommand_eq_error_iff (command : Bytes) (exptime : Option Int)
    (keys : List Bytes) (e : PyExc) :
    c.fanOutCommand command exptime keys = .error e ↔ checkKeys keys = .error e := by
  rcases keys with _ | ⟨k, ks⟩
  · simp only [Client.fanOutCommand, Client.checkOpen_of_open hc, pure_bind, if_pos rfl]
    exact ⟨fun h => (by cases h), fun h => (by cases h)⟩
  · simp only [Client.fanOutCommand, Client.checkOpen_of_open hc, pure_bind, List.cons_ne_nil,
      ↓reduceIte, bind_pure_comp, Except.fmap_eq_error_iff]

/-- **On an open client without autobatching, a call raises before its I/O exactly what
its argument checks raise.** -/
theorem Client.io_eq_error_iff (ha : c.autobatching = false) (op : Op) (e : PyExc) :
    c.io op = .error e ↔ op.check = .error e := by
  cases op <;> simp [Client.io, Client.storageCommand, Client.incrDecrCommand,
    Client.fetchCommand, Client.getAndTouchCommand, Client.nodeCommand,
    Client.fanOutCommand_eq_error_iff hc, Client.checkOpen_of_open hc, hc, ha, Op.check,
    Except.fmap_eq_error_iff, Except.pure_eq_error_iff]

end Open

theorem Op.check_error {op : Op} {e : PyExc} (h : op.check = .error e) :
    ∃ msg, e = .valueError msg := by
  cases op <;> simp only [Op.check, reduceCtorEq] at h <;>
    first
    | exact checkStorageArgs_error h
    | exact checkIncrDecrArgs_error h
    | exact ⟨_, checkKeys_error h⟩

theorem Op.check_eq_ok_iff (op : Op) : op.check = .ok () ↔ op.argsOk = true := by
  cases op <;> simp [Op.check, Op.argsOk, checkStorageArgs_eq_ok_iff, checkIncrDecrArgs_eq_ok_iff,
    checkKeys_eq_ok_iff, maxAllowedFlagValue, and_assoc]

/-! ## The checks of the builder -/

/-- A builder call raises, pushing nothing, exactly when its frame raises. -/
theorem Pipeline.push_eq_error_iff (p : Pipeline) (call : Pipeline.Call) (e : PyExc) :
    p.push call = .error e ↔ call.frame = .error e :=
  Except.fmap_eq_error_iff

/-- **A stats block over printable ASCII whose names and values hold no space comes back
as the map of its pairs**, a repeated name taking its last value, both from
`_Client.stats` and as the stats record of `_Pipeline.execute`. -/
theorem stats_block_map (c : Client) (address : Address) (args : List Str)
    (pairs : List (Str × Str))
    (h : ∀ p ∈ pairs, p.1 ≠ [] ∧ p.2 ≠ [] ∧ ∀ ch ∈ p.1 ++ p.2, 0x21 ≤ ch.toNat ∧ ch.toNat ≤ 0x7E) :
    ∃ d : PyDict Str Str,
      (c.stats address args).finish (Stats.encodeAscii (Stats.statBlock pairs)) = .ok d ∧
      (∀ n, d.get? n = lastValue pairs n) ∧
      Pipeline.groupsRecord { Pipeline.Groups.empty with stats := some (Stats.statBlock pairs) } =
        .ok (some (.dict d)) := by
  have hsplit : ∀ p ∈ pairs, Stats.Splittable p := fun p hp =>
    Stats.splittable_of_printable (h p hp).1 (h p hp).2.1 (h p hp).2.2
  have hascii : ∀ ch ∈ Stats.statBlock pairs, ch.toNat < 0x80 :=
    Stats.statBlock_ascii fun p hp ch hch => by have := ((h p hp).2.2 ch hch).2; omega
  refine ⟨_, Stats.statsResult_statBlock hascii, Stats.statsDict_statBlock hsplit,
    Pipeline.groupsRecord_stats _ (by simp [Stats.statBlock, text])⟩

theorem stats_block_map_repeated_name :
    ∃ d : PyDict Str Str,
      (Client.stats ⟨false, false⟩ ⟨text "localhost", 11211⟩ []).finish
        (Stats.encodeAscii (Stats.statBlock [(text "pid", text "41"), (text "pid", text "42")])) =
          .ok d ∧
      (∀ n, d.get? n = lastValue [(text "pid", text "41"), (text "pid", text "42")] n) ∧
      Pipeline.groupsRecord { Pipeline.Groups.empty with
        stats := some (Stats.statBlock [(text "pid", text "41"), (text "pid", text "42")]) } =
        .ok (some (.dict d)) :=
  stats_block_map ⟨false, false⟩ ⟨text "localhost", 11211⟩ []
    [(text "pid", text "41"), (text "pid", text "42")] (by decide)

/-- A value with a space is split: the greedy name group runs to the last space before a
non-empty value, so the line `STAT n a b` comes back as `n a` and `b`. -/
theorem stats_value_with_space :
    (Client.stats ⟨false, false⟩ ⟨text "localhost", 11211⟩ []).finish
      (Stats.encodeAscii (Stats.statBlock [(text "n", text "a b")])) =
        .ok [(text "n a", text "b")] := by
  rfl

/-! ## The conversions of the replies -/

/-- A counter reply that starts with a letter and is not `NOT_FOUND` reaches `int()`. -/
theorem incrDecrResult_letter {b : UInt8} (hb : isLetter b = true) {rest : Bytes}
    (hnf : b :: rest ≠ NOT_FOUND) :
    incrDecrResult false (b :: rest) = .error (.valueError intLiteralMsg) := by
  simp [incrDecrResult, hnf, pyInt_letter hb]

/-- A `VERSION <text>` reply passes both tests of `version`, which then decodes the text. -/
theorem versionResult_versionLine (payload : Bytes) :
    versionResult (ascii "VERSION " ++ payload) =
      match utf8Decode payload with
      | none => .error .unicodeDecodeError
      | some s => pure s := by
  have hpre : VERSION <+: ascii "VERSION " ++ payload := ⟨ascii " " ++ payload, rfl⟩
  have hne : ascii "VERSION " ++ payload ≠ [] := by simp [ascii]
  have hrem : removePrefix (ascii "VERSION ") (ascii "VERSION " ++ payload) = payload := by
    simp [removePrefix]
  rw [versionResult, if_neg (by simp [hne, hpre]), hrem]

/-- A version text that is not UTF-8 reaches `decode()`. -/
theorem versionResult_not_utf8 {payload : Bytes} {x : UInt8} (hx : x ∈ payload)
    (hge : 0xF5 ≤ x.toNat) :
    versionResult (ascii "VERSION " ++ payload) = .error .unicodeDecodeError := by
  rw [versionResult_versionLine, utf8Decode_eq_none_of_mem hx hge]

/-- **Counter and version replies reach Python conversions unguarded.**  With `noreply`
off, any reply to `incr`/`decr` that starts with a letter and is not `NOT_FOUND`, such as
`ERROR`, `CLIENT_ERROR ...` or `SERVER_ERROR ...`, makes `increment` and `decrement` raise
`ValueError` from `int(result)`; a `VERSION` reply whose text is not UTF-8 makes `version`
raise `UnicodeDecodeError`.  Neither is one of the client's errors. -/
theorem unguarded_reply_conversions (c : Client) (key : Bytes) (value : Int)
    (address : Address) {b : UInt8} (hb : isLetter b = true) {rest : Bytes}
    (hnf : b :: rest ≠ NOT_FOUND) {payload : Bytes} {x : UInt8} (hx : x ∈ payload)
    (hge : 0xF5 ≤ x.toNat) :
    (c.increment key value false).finish (b :: rest) = .error (.valueError intLiteralMsg) ∧
    (c.decrement key value false).finish (b :: rest) = .error (.valueError intLiteralMsg) ∧
    (c.version address).finish (ascii "VERSION " ++ payload) = .error .unicodeDecodeError :=
  ⟨incrDecrResult_letter hb hnf, incrDecrResult_letter hb hnf, versionResult_not_utf8 hx hge⟩

theorem unguarded_reply_conversions_error_reply :
    (Client.increment ⟨false, false⟩ (ascii "k") 1 false).finish (ascii "ERROR") =
      .error (.valueError intLiteralMsg) ∧
    (Client.decrement ⟨false, false⟩ (ascii "k") 1 false).finish (ascii "ERROR") =
      .error (.valueError intLiteralMsg) ∧
    (Client.version ⟨false, false⟩ ⟨text "localhost", 11211⟩).finish
      (ascii "VERSION " ++ [0xFF]) = .error .unicodeDecodeError :=
  unguarded_reply_conversions ⟨false, false⟩ (ascii "k") 1 ⟨text "localhost", 11211⟩
    (show isLetter (69 : UInt8) = true by decide) (by decide) (List.mem_singleton_self _)
    (by decide)

end Emcache
