import Emcache.Validation

/-!
# What `client.py` asks of the modules it imports

`client.py` imports the node, the connection, the protocol constants, the address types
and the autobatcher; none of those files is in the repository.  This file fixes the
interface the client code sees of them, and nothing more:

* `Address` stands for `MemcachedHostAddress`: the client only passes it on to
  `self._cluster.node(address)`;
* the protocol constants of `protocol.py` are the status tokens the spec lists
  ("single-token status lines: STORED, NOT_STORED, EXISTS, NOT_FOUND, DELETED, TOUCHED,
  OK, ERROR"), and `END` is the line the spec ends a stats block with;
* `ConnCall` is a call of one `Connection` coroutine with its arguments, and `Dispatch`
  is the I/O a client method starts once its checks have passed: which node it asks
  the cluster for (`pick_node`, `pick_nodes`, `node`), or the autobatcher it hands the
  key to.

A method of `_Client` is modelled as a `Method`: the code before its one `await` on the
connection, which raises or yields a `Dispatch`, and the code after it, from the reply
the connection hands back to what the method returns or raises.  The connection's reply
is an input, so every statement about a method holds for every reply.
-/

namespace Emcache

/-- Modelled from the spec: `MemcachedHostAddress(host, port)` of `_address.py`, which is
absent; the client only hands the address to `Cluster.node`. -/
structure Address where
  host : Str
  port : Nat
  deriving DecidableEq, Repr

/-- `base.Item`: `value: bytes`, `flags: Optional[int]`, `cas: Optional[int]`. -/
structure Item where
  value : Bytes
  flags : Option Int
  cas : Option Int
  deriving DecidableEq, Repr

/-! ## `protocol.py`

Modelled from the spec: the file is absent.  A status reply is compared with the token
alone, so each constant is the token; `END` closes the raw stats block, which the
connection hands back whole ("For `stats` the parser returns the full block bytes"). -/

/-- Modelled from the spec: `protocol.STORED`, the token `STORED`. -/
def STORED : Bytes := ascii "STORED"
/-- Modelled from the spec: `protocol.NOT_STORED`, the token `NOT_STORED`. -/
def NOT_STORED : Bytes := ascii "NOT_STORED"
/-- Modelled from the spec: `protocol.EXISTS`, the token `EXISTS`. -/
def EXISTS : Bytes := ascii "EXISTS"
/-- Modelled from the spec: `protocol.NOT_FOUND`, the token `NOT_FOUND`. -/
def NOT_FOUND : Bytes := ascii "NOT_FOUND"
/-- Modelled from the spec: `protocol.DELETED`, the token `DELETED`. -/
def DELETED : Bytes := ascii "DELETED"
/-- Modelled from the spec: `protocol.TOUCHED`, the token `TOUCHED`. -/
def TOUCHED : Bytes := ascii "TOUCHED"
/-- Modelled from the spec: `protocol.OK`, the token `OK`. -/
def OK : Bytes := ascii "OK"
/-- Modelled from the spec: `protocol.VERSION`, the token `VERSION`. -/
def VERSION : Bytes := ascii "VERSION"
/-- Modelled from the spec: `protocol.END`, taken as the last line `END\r\n` of a stats
block that the connection hands back whole. -/
def END : Bytes := ascii "END\r\n"

/-! ## The I/O a client method starts -/

/-- A call of one `Connection` coroutine, with the arguments the client passes. -/
inductive ConnCall where
  | storageCommand (command key value : Bytes) (flags exptime : Int) (noreply : Bool)
      (cas : Option Int)
  | incrDecrCommand (command key : Bytes) (value : Int) (noreply : Bool)
  | fetchCommand (command : Bytes) (keys : List Bytes)
  | getAndTouchCommand (command : Bytes) (exptime : Int) (keys : List Bytes)
  | touchCommand (key : Bytes) (exptime : Int) (noreply : Bool)
  | deleteCommand (key : Bytes) (noreply : Bool)
  | flushAllCommand (delay : Int) (noreply : Bool)
  | versionCommand
  | cacheMemlimitCommand (value : Int) (noreply : Bool)
  | statsCommand (args : List Str)
  | verbosityCommand (level : Int) (noreply : Bool)
  | extractPipelineData (commands : Bytes)
  deriving DecidableEq, Repr

/-- The I/O a method starts once its checks have passed. -/
inductive Dispatch where
  /-- `node = self._cluster.pick_node(key)`, then the call on a leased connection. -/
  | pickNode (key : Bytes) (call : ConnCall)
  /-- `self._cluster.pick_nodes(keys)`, then one task per node running `command` on the
  node's keys (`exptime` is there for `gat`/`gats`). -/
  | pickNodes (command : Bytes) (exptime : Option Int) (keys : List Bytes)
  /-- `node = self._cluster.node(address)`, then the call on a leased connection. -/
  | node (address : Address) (call : ConnCall)
  /-- `self._autobatching_<flags>_<cas>.execute(key)`. -/
  | autobatch (returnFlags returnCas : Bool) (key : Bytes)
  deriving DecidableEq, Repr

/-- A client method, split at its `await` on the connection: `dispatch` is the code
before it, which raises, returns early (`.ok (.inl r)`) or starts I/O (`.ok (.inr d)`);
`finish` is the code after it, from the connection's reply. -/
structure Method (ρ α : Type) where
  dispatch : Except PyExc (α ⊕ Dispatch)
  finish : ρ → Except PyExc α

namespace Method

variable {ρ α : Type}

/-- The whole method on one reply of the connection: what it returns or raises, and
the I/O it started (`none` when it returned or raised before any). -/
def run (m : Method ρ α) (reply : ρ) : Option Dispatch × Except PyExc α :=
  match m.dispatch with
  | .error e => (none, .error e)
  | .ok (.inl r) => (none, .ok r)
  | .ok (.inr d) => (some d, m.finish reply)

/-- What the code before the `await` comes to: what it raises, or the I/O it starts
(`none` for an early return). -/
def io (m : Method ρ α) : Except PyExc (Option Dispatch) :=
  m.dispatch.map (Sum.elim (fun _ => none) some)

/-- A method whose checks raise starts no I/O and raises what they raised. -/
@[simp] theorem run_of_dispatch_error {m : Method ρ α} {e : PyExc} (h : m.dispatch = .error e)
    (reply : ρ) : m.run reply = (none, .error e) := by
  simp [run, h]

/-- A method whose checks pass starts its I/O and ends as `finish` says. -/
@[simp] theorem run_of_dispatch_io {m : Method ρ α} {d : Dispatch}
    (h : m.dispatch = .ok (.inr d)) (reply : ρ) : m.run reply = (some d, m.finish reply) := by
  simp [run, h]

end Method

end Emcache
