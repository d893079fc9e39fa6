import Emcache.Pipeline.Builder
import Emcache.Client.Stats

/-!
# `_Pipeline.execute`: sending the stack and demultiplexing the reply

`execute()` checks the client, sends `b"".join(self.stack)` on one leased connection of
the pipeline's node, and reads back one consolidated reply.  It then decodes the whole
reply as text and scans it with `regex_memcached_responses`:

> for i in regex_memcached_responses.finditer(result.decode()):
>     groups = i.groupdict()
>     if error_message := groups["error_message"]: ...

and appends one record for each match, by the first of its named groups that is set,
before it clears the stack.

`regex_memcached_responses` lives in `constants.py`, which is absent, so the scan is a
parameter: `responses : Str → List Groups` is `finditer` with each match's `groupdict()`.
Everything proved here holds for every such scan.  What does not depend on the pattern
is the decoding: `result.decode()` runs on the whole reply before the scan, and a value
payload is arbitrary bytes.

## Results

* `execute_of_closed`: a closed client raises before any I/O.
* `execute_stack`: a run that returns clears the stack.
* `groupsRecord_stats`: a match whose only set group is `stats` gives the `dict` of the
  stats block, as `_Client.stats` makes it.
* Last, whatever the pattern, a reply holding a `VALUE` payload that is not UTF-8 makes
  `execute` raise `UnicodeDecodeError`, with the stack left as it was.
-/

namespace Emcache
namespace Pipeline

open Stats

/-- `groupdict()` of one match of `regex_memcached_responses`: `none` is a group that
took no part in the match. -/
structure Groups where
  errorMessage : Option Str
  clientError : Option Str
  error : Option Str
  stored : Option Str
  notStored : Option Str
  exists_ : Option Str
  notFound : Option Str
  end_ : Option Str
  value : Option Str
  data : Option Str
  flags : Option Str
  cas : Option Str
  deleted : Option Str
  touched : Option Str
  version : Option Str
  ok : Option Str
  stats : Option Str
  incrDecrValue : Option Str
  deriving DecidableEq, Repr

/-- A match with no group set. -/
def Groups.empty : Groups :=
  ⟨none, none, none, none, none, none, none, none, none, none, none, none, none, none, none,
    none, none, none⟩

/-- What `execute` appends for one match. -/
inductive Record where
  /-- A status token, an error text or the version text. -/
  | str (s : Str)
  /-- `Item(groups["data"], int(groups["flags"]), int(groups["cas"]) if groups["cas"] else None)`. -/
  | item (data : Option Str) (flags : Int) (cas : Option Int)
  | dict (d : PyDict Str Str)
  | int (n : Int)
  deriving DecidableEq, Repr

/-- Python truthiness of a group: set and non-empty. -/
def truthy : Option Str → Bool
  | some s => !s.isEmpty
  | none => false

/-- The body of the loop for one match: the `if`/`elif` chain, first set group wins. -/
def groupsRecord (g : Groups) : Except PyExc (Option Record) :=
  if truthy g.errorMessage then pure (some (.str (g.errorMessage.getD [])))
  else if truthy g.clientError then pure (some (.str (g.clientError.getD [])))
  else if truthy g.error then pure (some (.str (text "ERROR")))
  else if truthy g.stored then pure (some (.str (text "STORED")))
  else if truthy g.notStored then pure (some (.str (text "NOT_STORED")))
  else if truthy g.exists_ then pure (some (.str (text "EXISTS")))
  else if truthy g.notFound then pure (some (.str (text "NOT_FOUND")))
  else if truthy g.end_ then pure (some (.str (text "END")))
  else if truthy g.value then do
    let flags ← pyIntGroup g.flags
    let cas ← if truthy g.cas then some <$> pyIntGroup g.cas else pure none
    pure (some (.item g.data flags cas))
  else if truthy g.deleted then pure (some (.str (text "DELETED")))
  else if truthy g.touched then pure (some (.str (text "TOUCHED")))
  else if truthy g.version then
    pure (some (.str (removePrefix (text "VERSION ") (g.version.getD []))))
  else if truthy g.ok then pure (some (.str (text "OK")))
  else if truthy g.stats then pure (some (.dict (statsDict (g.stats.getD []))))
  else if truthy g.incrDecrValue then (some ∘ .int) <$> pyIntGroup g.incrDecrValue
  else pure none

/-- The loop over the matches, in order; the first record that raises stops it. -/
def records : List Groups → Except PyExc (List Record)
  | [] => pure []
  | g :: gs => do
    let r ← groupsRecord g
    let rs ← records gs
    pure (r.toList ++ rs)

/-- `_Pipeline.execute` of a pipeline on the node at `address`, for a client whose
`_closed` is `closed`.  It returns the records and the pipeline after `self.stack = []`. -/
def execute (closed : Bool) (address : Address) (responses : Str → List Groups)
    (p : Pipeline) : Method Bytes (List Record × Pipeline) where
  dispatch :=
    if closed then .error (.runtimeError clientClosedMsg)
    else .ok (.inr (.node address (.extractPipelineData p.stack.flatten)))
  finish result :=
    match utf8Decode result with
    | none => .error .unicodeDecodeError
    | some s => (fun rs => (rs, { stack := [] })) <$> records (responses s)

/-! ## The run -/

variable {closed : Bool} {address : Address} {responses : Str → List Groups} {p : Pipeline}

/-- **A closed client raises `RuntimeError` before any I/O.** -/
theorem execute_of_closed (address : Address) (responses : Str → List Groups)
    (p : Pipeline) (result : Bytes) :
    (execute true address responses p).run result =
      (none, .error (.runtimeError clientClosedMsg)) :=
  Method.run_of_dispatch_error rfl result

theorem execute_of_open (result : Bytes) :
    (execute false address responses p).run result =
      (some (.node address (.extractPipelineData p.stack.flatten)),
        (execute false address responses p).finish result) :=
  Method.run_of_dispatch_io rfl result

/-- A run that returns has cleared the stack. -/
theorem execute_stack {result : Bytes} {rs : List Record} {p' : Pipeline}
    (h : (execute closed address responses p).finish result = .ok (rs, p')) : p'.stack = [] := by
  simp only [execute] at h
  split at h
  · cases h
  · cases hr : records (responses _) with
    | error e => rw [hr] at h; cases h
    | ok rs' => rw [hr] at h; cases h; rfl

/-- A match whose only set group is `stats` gives the `dict` of the block. -/
theorem groupsRecord_stats (s : Str) (hs : s ≠ []) :
    groupsRecord { Groups.empty with stats := some s } = .ok (some (.dict (statsDict s))) := by
  cases s with
  | nil => exact absurd rfl hs
  | cons c s => rfl

/-! ## A reply that is not UTF-8 -/

/-- Modelled from the spec: the server's reply to `get <key>` on a hit, framed by the byte
count ("`VALUE <key> <flags> <bytes> [<cas>]\r\n<payload>\r\n` records terminated by
`END\r\n`"). -/
def valueReply (key : Bytes) (flags : Nat) (payload : Bytes) : Bytes :=
  ascii "VALUE " ++ key ++ [32] ++ decimal flags ++ [32] ++ decimal payload.length ++ crlf ++
    payload ++ crlf ++ ascii "END\r\n"

/-- **Whatever the pattern, a `VALUE` payload that is not UTF-8 makes `execute` raise.**
The payload is framed by its byte count, so any bytes are a well-formed reply; a byte
`0xF5` or above is never UTF-8.  The run raises after the I/O, so the stack stays. -/
theorem execute_value_not_utf8 (responses : Str → List Groups) (p : Pipeline)
    (before after key payload : Bytes) (flags : Nat) {b : UInt8} (hb : b ∈ payload)
    (hge : 0xF5 ≤ b.toNat) :
    (execute false address responses p).run (before ++ valueReply key flags payload ++ after) =
      (some (.node address (.extractPipelineData p.stack.flatten)), .error .unicodeDecodeError) := by
  have hmem : b ∈ before ++ valueReply key flags payload ++ after := by
    simp [valueReply, hb]
  rw [execute_of_open]
  simp only [execute, utf8Decode_eq_none_of_mem hmem hge]

theorem execute_value_not_utf8_get_hit :
    (execute false ⟨text "localhost", 11211⟩ (fun _ => []) ⟨[ascii "get k\r\n"]⟩).run
        ([] ++ valueReply (ascii "k") 0 [0xFF] ++ []) =
      (some (.node ⟨text "localhost", 11211⟩ (.extractPipelineData [ascii "get k\r\n"].flatten)),
        .error .unicodeDecodeError) :=
  execute_value_not_utf8 (fun _ => []) ⟨[ascii "get k\r\n"]⟩ [] [] (ascii "k") [0xFF] 0
    (List.mem_singleton_self _) (by decide)

end Pipeline
end Emcache
