import Emcache.Validation
import Emcache.PyLib

/-!
# `_Pipeline`: the builder

`client.pipeline(address)` hands back a `_Pipeline` that writes nothing until
`execute()`.  Each builder method formats one request with `%` and appends it:

> self.stack.append(self._storage_command(b"set", key, value, flags, exptime, noreply))
> return self

The frame is computed before `append` runs, so a method that raises leaves the stack as
it was.  Four helpers do the formatting and the checking (`retrievalCommand`,
`storageCommand`, `incrDecrCommand`, `getAndTouchCommand`); `touch`, `delete`,
`flush_all`, `version`, `cache_memlimit`, `stats` and `verbosity` format inline, and
`touch` and `delete` check nothing.  Formatting raises too: `%a` of an `int` of more than
4300 digits (`asciiInt`), and `" ".join(args).encode()` of `stats` arguments holding a
lone surrogate (`pyEncode`).

## The dictionary

A builder call is a `Call`, one constructor per method with the method's arguments;
`Call.frame` is the bytes the method appends, or the exception it raises.
`Pipeline.run` is a chain `p.get(k).set(k, v)...`.

## What a builder raises

`Call.frame_eq_error_iff`: a builder that formats through a helper raises what the
helper's checks raise (`Call.check`) or, once they pass, the `ValueError` of an `int` too
long for `%a` (`Call.intsFit`).  `touch`, `delete` and the per-address builders run no
check.
-/

namespace Emcache

/-- A `_Pipeline`: the frames its builder methods have pushed (`self.stack`). -/
structure Pipeline where
  stack : List Bytes
  deriving DecidableEq, Repr

namespace Pipeline

/-- `b" noreply" if noreply else b""`. -/
def noreplySuffix (noreply : Bool) : Bytes := if noreply then ascii " noreply" else []

/-- `_Pipeline._retrieval_command`: `b"%b %b\r\n" % (command, b" ".join(keys))`. -/
def retrievalCommand (command : Bytes) (keys : List Bytes) : Except PyExc Bytes := do
  checkKeys keys
  pure (command ++ [32] ++ joinSpace keys ++ crlf)

/-- `_Pipeline._storage_command`: the header
`b"%b %b %a %a %a%b\r\n%b\r\n" % (command, key, flags, exptime, len(value), extra, value)`,
where `extra` is the cas token and `noreply`. -/
def storageCommand (command key value : Bytes) (flags exptime : Int) (noreply : Bool)
    (cas : Option Int) : Except PyExc Bytes := do
  checkStorageArgs key flags cas
  let extra ← match cas with
    | some c => do pure ([32] ++ (← asciiInt c) ++ noreplySuffix noreply)
    | none => pure (noreplySuffix noreply)
  let f ← asciiInt flags
  let e ← asciiInt exptime
  let n ← asciiInt value.length
  pure (command ++ [32] ++ key ++ [32] ++ f ++ [32] ++ e ++ [32] ++ n ++ extra ++ crlf ++ value ++
    crlf)

/-- `_Pipeline._incr_decr_command`: `b"%b %b %a%b\r\n"`. -/
def incrDecrCommand (command key : Bytes) (value : Int) (noreply : Bool) :
    Except PyExc Bytes := do
  checkIncrDecrArgs key value
  pure (command ++ [32] ++ key ++ [32] ++ (← asciiInt value) ++ noreplySuffix noreply ++ crlf)

/-- `_Pipeline._get_and_touch_command`: `b"%b %a %b\r\n" % (command, exptime, keys)`. -/
def getAndTouchCommand (command : Bytes) (exptime : Int) (keys : List Bytes) :
    Except PyExc Bytes := do
  checkKeys keys
  pure (command ++ [32] ++ (← asciiInt exptime) ++ [32] ++ joinSpace keys ++ crlf)

/-- A builder method of `_Pipeline` with its arguments. -/
inductive Call where
  | get (key : Bytes)
  | gets (key : Bytes)
  | getMany (keys : List Bytes)
  | getsMany (keys : List Bytes)
  | set (key value : Bytes) (flags exptime : Int) (noreply : Bool)
  | add (key value : Bytes) (flags exptime : Int) (noreply : Bool)
  | replace (key value : Bytes) (flags exptime : Int) (noreply : Bool)
  | append (key value : Bytes) (noreply : Bool)
  | prepend (key value : Bytes) (noreply : Bool)
  | cas (key value : Bytes) (cas flags exptime : Int) (noreply : Bool)
  | increment (key : Bytes) (value : Int) (noreply : Bool)
  | decrement (key : Bytes) (value : Int) (noreply : Bool)
  | touch (key : Bytes) (exptime : Int) (noreply : Bool)
  | delete (key : Bytes) (noreply : Bool)
  | flushAll (delay : Int) (noreply : Bool)
  | version
  | gat (exptime : Int) (key : Bytes)
  | gats (exptime : Int) (key : Bytes)
  | gatMany (exptime : Int) (keys : List Bytes)
  | gatsMany (exptime : Int) (keys : List Bytes)
  | cacheMemlimit (value : Int) (noreply : Bool)
  | stats (args : List PyStr)
  | verbosity (level : Int) (noreply : Bool)
  deriving Repr

/-- The frame a builder method appends, or what it raises first. -/
def Call.frame : Call → Except PyExc Bytes
  | .get key => retrievalCommand (ascii "get") [key]
  | .gets key => retrievalCommand (ascii "gets") [key]
  | .getMany keys => retrievalCommand (ascii "get") keys
  | .getsMany keys => retrievalCommand (ascii "gets") keys
  | .set key value flags exptime noreply =>
    storageCommand (ascii "set") key value flags exptime noreply none
  | .add key value flags exptime noreply =>
    storageCommand (ascii "add") key value flags exptime noreply none
  | .replace key value flags exptime noreply =>
    storageCommand (ascii "replace") key value flags exptime noreply none
  | .append key value noreply => storageCommand (ascii "append") key value 0 0 noreply none
  | .prepend key value noreply => storageCommand (ascii "prepend") key value 0 0 noreply none
  | .cas key value token flags exptime noreply =>
    storageCommand (ascii "cas") key value flags exptime noreply (some token)
  | .increment key value noreply => incrDecrCommand (ascii "incr") key value noreply
  | .decrement key value noreply => incrDecrCommand (ascii "decr") key value noreply
  | .touch key exptime noreply => do
    pure (ascii "touch " ++ key ++ [32] ++ (← asciiInt exptime) ++ noreplySuffix noreply ++ crlf)
  | .delete key noreply => pure (ascii "delete " ++ key ++ noreplySuffix noreply ++ crlf)
  | .flushAll delay noreply => do
    pure (ascii "flush_all " ++ (← asciiInt delay) ++ noreplySuffix noreply ++ crlf)
  | .version => pure (ascii "version\r\n")
  | .gat exptime key => getAndTouchCommand (ascii "gat") exptime [key]
  | .gats exptime key => getAndTouchCommand (ascii "gats") exptime [key]
  | .gatMany exptime keys => getAndTouchCommand (ascii "gat") exptime keys
  | .gatsMany exptime keys => getAndTouchCommand (ascii "gats") exptime keys
  | .cacheMemlimit value noreply => do
    pure (ascii "cache_memlimit " ++ (← asciiInt value) ++ noreplySuffix noreply ++ crlf)
  | .stats args =>
    if args = [] then pure (ascii "stats\r\n")
    else do pure (ascii "stats " ++ (← pyEncode ([32].intercalate args)) ++ crlf)
  | .verbosity level noreply => do
    pure (ascii "verbosity " ++ (← asciiInt level) ++ noreplySuffix noreply ++ crlf)

/-- `self.stack.append(frame); return self`, for one builder call. -/
def push (p : Pipeline) (c : Call) : Except PyExc Pipeline :=
  (fun f => { stack := p.stack ++ [f] }) <$> c.frame

/-- A chain of builder calls, each on the pipeline the one before returned. -/
def run (p : Pipeline) : List Call → Except PyExc Pipeline
  | [] => .ok p
  | c :: cs => p.push c >>= fun p' => p'.run cs

/-! ## What a chain of calls leaves on the stack -/

theorem push_of_frame {p : Pipeline} {c : Call} {f : Bytes} (h : c.frame = .ok f) :
    p.push c = .ok { stack := p.stack ++ [f] } := by
  simp [push, h]

/-- A call that raises pushes nothing: the caller keeps the pipeline it had. -/
theorem push_of_frame_error {p : Pipeline} {c : Call} {e : PyExc} (h : c.frame = .error e) :
    p.push c = .error e := by
  simp [push, h]

/-- **A chain whose calls all frame pushes their frames, in order.** -/
theorem run_of_forall₂ {p : Pipeline} {cs : List Call} {fs : List Bytes}
    (h : List.Forall₂ (fun c f => c.frame = .ok f) cs fs) :
    p.run cs = .ok { stack := p.stack ++ fs } := by
  induction h generalizing p with
  | nil => simp [run]
  | cons hf _ ih =>
    rw [run, push_of_frame hf]
    exact ih.trans (by simp)

theorem run_append (p : Pipeline) (cs cs' : List Call) :
    p.run (cs ++ cs') = p.run cs >>= fun q => q.run cs' := by
  induction cs generalizing p with
  | nil => rfl
  | cons c cs ih =>
    rw [List.cons_append, run, run]
    cases p.push c with
    | error e => rfl
    | ok q => exact ih q

/-- A chain that returns pushed one frame per call, in order, on top of the stack it
started from. -/
theorem exists_forall₂_of_run {p q : Pipeline} {cs : List Call} (h : p.run cs = .ok q) :
    ∃ fs, List.Forall₂ (fun c f => c.frame = .ok f) cs fs ∧ q = { stack := p.stack ++ fs } := by
  induction cs generalizing p with
  | nil => cases h; exact ⟨[], .nil, by simp⟩
  | cons c cs ih =>
    rw [run] at h
    cases hc : c.frame with
    | error e => rw [push_of_frame_error hc] at h; cases h
    | ok f =>
      rw [push_of_frame hc] at h
      obtain ⟨fs, hfs, rfl⟩ := ih h
      exact ⟨f :: fs, .cons hc hfs, by simp⟩

/-- A chain stops at the first call that raises. -/
theorem run_cons_of_frame_error {p : Pipeline} {c : Call} {e : PyExc}
    (h : c.frame = .error e) (cs : List Call) : p.run (c :: cs) = .error e := by
  simp only [run, push_of_frame_error h]; rfl

/-! ## What a builder method raises

The four helpers run the argument checks of `Validation` before they format, so a helper
raises what its checks raise or, once they pass, the `ValueError` of the first `int` too
long for `%a`. -/

/-- Whether every `int` `_storage_command` formats prints: the cas token, the flags, the
exptime and `len(value)`. -/
def storageIntsFit (value : Bytes) (flags exptime : Int) (cas : Option Int) : Bool :=
  cas.all withinStrDigits && withinStrDigits flags && withinStrDigits exptime &&
    withinStrDigits value.length

theorem retrievalCommand_eq_error_iff (command : Bytes) (keys : List Bytes) (e : PyExc) :
    retrievalCommand command keys = .error e ↔ checkKeys keys = .error e := by
  simp only [retrievalCommand, bind_pure_comp, Except.fmap_eq_error_iff]

theorem storageCommand_eq_error_iff (command key value : Bytes) (flags exptime : Int)
    (noreply : Bool) (cas : Option Int) (e : PyExc) :
    storageCommand command key value flags exptime noreply cas = .error e ↔
      checkStorageArgs key flags cas = .error e ∨
        (checkStorageArgs key flags cas = .ok () ∧ storageIntsFit value flags exptime cas = false ∧
          e = .valueError intToStrLimitMsg) := by
  rw [storageCommand, check_bind_eq_error_iff]
  refine or_congr_right (and_congr_right fun _ => ?_)
  rcases cas with _ | t <;>
    simp only [storageIntsFit, asciiInt_bind_eq_error_iff, Except.fmap_eq_error_iff,
      asciiInt_eq_error_iff, bind_pure_comp, pure_bind, bind_assoc, map_bind, Option.all_none,
      Option.all_some, Bool.true_and] <;>
    cases withinStrDigits flags <;> cases withinStrDigits exptime <;>
    cases withinStrDigits (value.length : Int) <;> try cases withinStrDigits t
  all_goals simp

theorem incrDecrCommand_eq_error_iff (command key : Bytes) (value : Int) (noreply : Bool)
    (e : PyExc) :
    incrDecrCommand command key value noreply = .error e ↔
      checkIncrDecrArgs key value = .error e ∨
        (checkIncrDecrArgs key value = .ok () ∧ withinStrDigits value = false ∧
          e = .valueError intToStrLimitMsg) := by
  simp only [incrDecrCommand, check_bind_eq_error_iff, bind_pure_comp, Except.fmap_eq_error_iff,
    asciiInt_eq_error_iff]

theorem getAndTouchCommand_eq_error_iff (command : Bytes) (exptime : Int) (keys : List Bytes)
    (e : PyExc) :
    getAndTouchCommand command exptime keys = .error e ↔
      checkKeys keys = .error e ∨
        (checkKeys keys = .ok () ∧ withinStrDigits exptime = false ∧
          e = .valueError intToStrLimitMsg) := by
  simp only [getAndTouchCommand, check_bind_eq_error_iff, bind_pure_comp,
    Except.fmap_eq_error_iff, asciiInt_eq_error_iff]

/-- The builder methods that format through one of the four helpers: all but `touch`,
`delete` and the per-address commands, which format inline. -/
def Call.usesHelper : Call → Bool
  | .get _ | .gets _ | .getMany _ | .getsMany _ | .set .. | .add .. | .replace .. | .append ..
  | .prepend .. | .cas .. | .increment .. | .decrement .. | .gat .. | .gats .. | .gatMany ..
  | .gatsMany .. => true
  | .touch .. | .delete .. | .flushAll .. | .version | .cacheMemlimit .. | .stats _
  | .verbosity .. => false

/-- The argument checks a builder method runs before it formats, through its helper. -/
def Call.check : Call → Except PyExc Unit
  | .get k | .gets k | .gat _ k | .gats _ k => checkKeys [k]
  | .getMany ks | .getsMany ks | .gatMany _ ks | .gatsMany _ ks => checkKeys ks
  | .set k _ f _ _ | .add k _ f _ _ | .replace k _ f _ _ => checkStorageArgs k f none
  | .append k _ _ | .prepend k _ _ => checkStorageArgs k 0 none
  | .cas k _ t f _ _ => checkStorageArgs k f (some t)
  | .increment k v _ | .decrement k v _ => checkIncrDecrArgs k v
  | .touch .. | .delete .. | .flushAll .. | .version | .cacheMemlimit .. | .stats _
  | .verbosity .. => .ok ()

/-- The arguments the checks of a builder method let through: valid keys, flags at most
`2^16`, cas at most `2^64`, a non-negative delta. -/
def Call.argsOk : Call → Bool
  | .get k | .gets k | .gat _ k | .gats _ k => isKeyValid k
  | .getMany ks | .getsMany ks | .gatMany _ ks | .gatsMany _ ks => ks.all isKeyValid
  | .set k _ f _ _ | .add k _ f _ _ | .replace k _ f _ _ =>
    isKeyValid k && decide (f ≤ maxAllowedFlagValue)
  | .append k _ _ | .prepend k _ _ => isKeyValid k
  | .cas k _ t f _ _ =>
    isKeyValid k && decide (f ≤ maxAllowedFlagValue) && decide (t ≤ maxAllowedCasValue)
  | .increment k v _ | .decrement k v _ => isKeyValid k && decide (0 ≤ v)
  | .touch .. | .delete .. | .flushAll .. | .version | .cacheMemlimit .. | .stats _
  | .verbosity .. => true

/-- Whether every `int` a builder method formats with `%a` prints. -/
def Call.intsFit : Call → Bool
  | .get _ | .gets _ | .getMany _ | .getsMany _ | .delete .. | .version | .stats _ => true
  | .set _ v f e _ | .add _ v f e _ | .replace _ v f e _ => storageIntsFit v f e none
  | .append _ v _ | .prepend _ v _ => storageIntsFit v 0 0 none
  | .cas _ v t f e _ => storageIntsFit v f e (some t)
  | .increment _ d _ | .decrement _ d _ => withinStrDigits d
  | .touch _ e _ | .gat e _ | .gats e _ | .gatMany e _ | .gatsMany e _ => withinStrDigits e
  | .flushAll d _ => withinStrDigits d
  | .cacheMemlimit v _ => withinStrDigits v
  | .verbosity l _ => withinStrDigits l

/-- **A builder method that formats through a helper raises what its checks raise or,
once they pass, the limit's `ValueError` exactly when one of its `int`s does not print.** -/
theorem Call.frame_eq_error_iff {call : Call} (h : call.usesHelper = true) (e : PyExc) :
    call.frame = .error e ↔ call.check = .error e ∨
      (call.check = .ok () ∧ call.intsFit = false ∧ e = .valueError intToStrLimitMsg) := by
  cases call <;> simp only [Call.usesHelper, Bool.false_eq_true] at h <;>
    simp [Call.frame, Call.check, Call.intsFit, retrievalCommand_eq_error_iff,
      storageCommand_eq_error_iff, incrDecrCommand_eq_error_iff, getAndTouchCommand_eq_error_iff]

theorem Call.check_eq_ok_iff (call : Call) : call.check = .ok () ↔ call.argsOk = true := by
  cases call <;> simp [Call.check, Call.argsOk, checkStorageArgs_eq_ok_iff,
    checkIncrDecrArgs_eq_ok_iff, checkKeys_eq_ok_iff, maxAllowedFlagValue, and_assoc]

theorem Call.check_error {call : Call} {e : PyExc} (h : call.check = .error e) :
    ∃ msg, e = .valueError msg := by
  cases call <;> simp only [Call.check, reduceCtorEq] at h <;>
    first
    | exact checkStorageArgs_error h
    | exact checkIncrDecrArgs_error h
    | exact ⟨_, checkKeys_error h⟩

/-- A builder method that formats through a helper raises exactly when its arguments fail
the checks or one of its `int`s does not print. -/
theorem Call.exists_frame_error_iff {call : Call} (h : call.usesHelper = true) :
    (∃ e, call.frame = .error e) ↔ call.argsOk = false ∨ call.intsFit = false := by
  rw [← Bool.not_eq_true call.argsOk, ← Call.check_eq_ok_iff]
  simp only [Call.frame_eq_error_iff h]
  rcases call.check with e | ⟨⟨⟩⟩ <;> simp

/-- What such a builder method raises is a `ValueError`. -/
theorem Call.frame_error {call : Call} (h : call.usesHelper = true) {e : PyExc}
    (he : call.frame = .error e) : ∃ msg, e = .valueError msg := by
  rcases (Call.frame_eq_error_iff h e).mp he with hc | ⟨-, -, rfl⟩
  · exact Call.check_error hc
  · exact ⟨_, rfl⟩

end Pipeline

end Emcache
