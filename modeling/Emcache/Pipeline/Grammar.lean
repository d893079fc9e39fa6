import Emcache.Pipeline.Builder

/-!
# The request grammar, and what the builder's frames mean

The text protocol's request side, as the spec states it: a request is a line of ASCII
tokens separated by single spaces and ended by CR LF, a storage request is followed by
exactly `<bytes>` raw bytes and a second CR LF, `noreply` is the last token, and the cas
token stands before it.  `parseRequests` reads a byte stream into requests by that
grammar and nothing else; keys must satisfy the key rule, flags must lie in `[0, 2^16)`,
and the payload is taken by count, so a value may hold CR LF.

This file is not a translation of the client: it is the other side of a refinement.
`Call.request` says which request each builder call stands for (`get k` and
`get_many [k]` are the same request), and the main theorem of the file says the stack of
a chain of well-formed builder calls parses to exactly those requests, in order.

## 1.  One frame

`Call.frame_eq` puts every frame in one shape: the tokens `c.words` joined by single
spaces, CR LF, then the payload `c.body` (the value and CR LF for a storage request,
nothing otherwise).  `parseRequest_words` reads such a frame back to `parseCommand` on
the same tokens, because no token holds a space or a CR (`splitOn_intercalate`), and
`Call.parseCommand_words` finishes the request field by field with the numeral round trips of
`Basic`.

## 2.  Whole stacks

`parseRequestsAux_wires` runs the single-frame lemma along the stack, and
the main theorem adds what `Builder` says about the stack of a chain.

## 3.  Where the round trip needs more than the builder checks

`Call.WellFormed` is what the round trip assumes, and each clause is needed: `touch` and
`delete` never validate their key, `get_many([])` frames `b"get \r\n"`, nothing bounds
flags or cas from below, an `int` of more than 4300 digits makes `%a` raise, and a
`stats` argument may hold a space, which splits it into two arguments on the wire.
-/

namespace Emcache

namespace Pipeline

/-! ## The grammar -/

/-- The command names of the text protocol that the builder emits. -/
inductive Verb where
  | get | gets | set | add | replace | append | prepend | cas | incr | decr | touch
  | delete | flushAll | version | gat | gats | cacheMemlimit | stats | verbosity
  deriving DecidableEq, Repr

/-- The name of a command on the wire. -/
def Verb.name : Verb → Bytes
  | .get => ascii "get"
  | .gets => ascii "gets"
  | .set => ascii "set"
  | .add => ascii "add"
  | .replace => ascii "replace"
  | .append => ascii "append"
  | .prepend => ascii "prepend"
  | .cas => ascii "cas"
  | .incr => ascii "incr"
  | .decr => ascii "decr"
  | .touch => ascii "touch"
  | .delete => ascii "delete"
  | .flushAll => ascii "flush_all"
  | .version => ascii "version"
  | .gat => ascii "gat"
  | .gats => ascii "gats"
  | .cacheMemlimit => ascii "cache_memlimit"
  | .stats => ascii "stats"
  | .verbosity => ascii "verbosity"

/-- Every command name, for reading one off the wire. -/
def Verb.all : List Verb :=
  [.get, .gets, .set, .add, .replace, .append, .prepend, .cas, .incr, .decr, .touch, .delete,
    .flushAll, .version, .gat, .gats, .cacheMemlimit, .stats, .verbosity]

/-- The command a name denotes. -/
def verbOf? (t : Bytes) : Option Verb := Verb.all.find? (·.name = t)

/-- A request as the grammar reads it. -/
inductive Request where
  | retrieval (verb : Verb) (keys : List Bytes)
  | storage (verb : Verb) (key : Bytes) (flags : Nat) (exptime : Int) (value : Bytes)
      (noreply : Bool)
  | cas (key : Bytes) (flags : Nat) (exptime : Int) (value : Bytes) (cas : Nat) (noreply : Bool)
  | incrDecr (verb : Verb) (key : Bytes) (delta : Nat) (noreply : Bool)
  | touch (key : Bytes) (exptime : Int) (noreply : Bool)
  | delete (key : Bytes) (noreply : Bool)
  | flushAll (delay : Int) (noreply : Bool)
  | version
  | getAndTouch (verb : Verb) (exptime : Int) (keys : List Bytes)
  | cacheMemlimit (value : Int) (noreply : Bool)
  | stats (args : List Bytes)
  | verbosity (level : Int) (noreply : Bool)
  deriving DecidableEq, Repr

/-- The line up to the first CR LF, and the bytes after that CR LF. -/
def takeLine : Bytes → Option (Bytes × Bytes)
  | 13 :: 10 :: rest => some ([], rest)
  | b :: rest => (fun p => (b :: p.1, p.2)) <$> takeLine rest
  | [] => none

/-- A printable ASCII token: a stats argument. -/
def isToken (t : Bytes) : Bool := t ≠ [] && t.all fun b => 0x21 ≤ b.toNat && b.toNat ≤ 0x7E

/-- A key token. -/
def parseKey (t : Bytes) : Option Bytes := if isKeyValid t then some t else none

/-- The keys of a retrieval: at least one, each a key. -/
def parseKeys (ts : List Bytes) : Option (List Bytes) :=
  if ts ≠ [] ∧ ts.all isKeyValid then some ts else none

/-- A flags token: a numeral below `2^16`. -/
def parseFlags (t : Bytes) : Option Nat := (parseNat t).filter (· < 2 ^ 16)

/-- The optional last token `noreply`. -/
def parseNoreply : List Bytes → Option Bool
  | [] => some false
  | [t] => if t = ascii "noreply" then some true else none
  | _ => none

/-- Exactly `n` payload bytes, then CR LF. -/
def takePayload (n : Nat) (rest : Bytes) : Option (Bytes × Bytes) :=
  match rest.drop n with
  | 13 :: 10 :: after => some (rest.take n, after)
  | _ => none

/-- The arguments of a command, and its payload for a storage command. -/
def parseCommand (v : Verb) (args : List Bytes) (rest : Bytes) : Option (Request × Bytes) :=
  match v, args with
  | .get, ts | .gets, ts => (fun ks => (.retrieval v ks, rest)) <$> parseKeys ts
  | .set, k :: f :: e :: n :: more | .add, k :: f :: e :: n :: more
  | .replace, k :: f :: e :: n :: more | .append, k :: f :: e :: n :: more
  | .prepend, k :: f :: e :: n :: more => do
    let key ← parseKey k
    let flags ← parseFlags f
    let exptime ← parseInt e
    let n ← parseNat n
    let noreply ← parseNoreply more
    let (value, rest) ← takePayload n rest
    pure (.storage v key flags exptime value noreply, rest)
  | .cas, k :: f :: e :: n :: c :: more => do
    let key ← parseKey k
    let flags ← parseFlags f
    let exptime ← parseInt e
    let n ← parseNat n
    let cas ← parseNat c
    let noreply ← parseNoreply more
    let (value, rest) ← takePayload n rest
    pure (.cas key flags exptime value cas noreply, rest)
  | .incr, k :: d :: more | .decr, k :: d :: more => do
    pure (.incrDecr v (← parseKey k) (← parseNat d) (← parseNoreply more), rest)
  | .touch, k :: e :: more => do
    pure (.touch (← parseKey k) (← parseInt e) (← parseNoreply more), rest)
  | .delete, k :: more => do pure (.delete (← parseKey k) (← parseNoreply more), rest)
  | .flushAll, d :: more => do pure (.flushAll (← parseInt d) (← parseNoreply more), rest)
  | .version, [] => some (.version, rest)
  | .gat, e :: ts | .gats, e :: ts => do
    pure (.getAndTouch v (← parseInt e) (← parseKeys ts), rest)
  | .cacheMemlimit, x :: more => do
    pure (.cacheMemlimit (← parseInt x) (← parseNoreply more), rest)
  | .stats, ts => if ts.all isToken then some (.stats ts, rest) else none
  | .verbosity, l :: more => do pure (.verbosity (← parseInt l) (← parseNoreply more), rest)
  | _, _ => none

/-- One request off the front of the stream. -/
def parseRequest (s : Bytes) : Option (Request × Bytes) := do
  let (line, rest) ← takeLine s
  match line.splitOn 32 with
  | name :: args => parseCommand (← verbOf? name) args rest
  | [] => none

/-- Requests until the stream ends, one a step. -/
def parseRequestsAux : Nat → Bytes → Option (List Request)
  | _, [] => some []
  | 0, _ :: _ => none
  | fuel + 1, s => do
    let (r, rest) ← parseRequest s
    (r :: ·) <$> parseRequestsAux fuel rest

/-- **The request grammar**: the requests a byte stream consists of, if it consists of
requests. -/
def parseRequests (s : Bytes) : Option (List Request) := parseRequestsAux s.length s

example : parseRequests (ascii "set k 0 0 2\r\na\r\r\nget k\r\n") =
    some [.storage .set (ascii "k") 0 0 (ascii "a\r") false, .retrieval .get [ascii "k"]] := by
  decide

/-! ## What a builder call stands for -/

/-- The request a builder call is meant to send, read off its arguments. -/
def Call.request : Call → Request
  | .get key => .retrieval .get [key]
  | .gets key => .retrieval .gets [key]
  | .getMany keys => .retrieval .get keys
  | .getsMany keys => .retrieval .gets keys
  | .set key value flags exptime noreply => .storage .set key flags.toNat exptime value noreply
  | .add key value flags exptime noreply => .storage .add key flags.toNat exptime value noreply
  | .replace key value flags exptime noreply =>
    .storage .replace key flags.toNat exptime value noreply
  | .append key value noreply => .storage .append key 0 0 value noreply
  | .prepend key value noreply => .storage .prepend key 0 0 value noreply
  | .cas key value token flags exptime noreply =>
    .cas key flags.toNat exptime value token.toNat noreply
  | .increment key value noreply => .incrDecr .incr key value.toNat noreply
  | .decrement key value noreply => .incrDecr .decr key value.toNat noreply
  | .touch key exptime noreply => .touch key exptime noreply
  | .delete key noreply => .delete key noreply
  | .flushAll delay noreply => .flushAll delay noreply
  | .version => .version
  | .gat exptime key => .getAndTouch .gat exptime [key]
  | .gats exptime key => .getAndTouch .gats exptime [key]
  | .gatMany exptime keys => .getAndTouch .gat exptime keys
  | .gatsMany exptime keys => .getAndTouch .gats exptime keys
  | .cacheMemlimit value noreply => .cacheMemlimit value noreply
  | .stats args => .stats (args.map asciiBytes)
  | .verbosity level noreply => .verbosity level noreply

/-- A flags value of the grammar. -/
def flagsInRange (flags : Int) : Bool := 0 ≤ flags && flags < 2 ^ 16

/-- A `stats` argument that reaches the wire as one token: printable ASCII, no space. -/
def isTokenStr (a : PyStr) : Bool := a ≠ [] && a.all fun c => 0x21 ≤ c.val && c.val ≤ 0x7E

/-- The arguments under which a call's frame is a request of the grammar: valid keys,
for `touch` and `delete` too; non-empty key lists; flags in `[0, 2^16)`; a cas in
`[0, 2^64]`; a non-negative delta; every other `int` it prints, the payload's length
included, within CPython's digit limit; and stats arguments that are tokens. -/
def Call.WellFormed : Call → Bool
  | .get key | .gets key | .delete key _ => isKeyValid key
  | .append key value _ | .prepend key value _ =>
    isKeyValid key && withinStrDigits value.length
  | .touch key exptime _ | .gat exptime key | .gats exptime key =>
    isKeyValid key && withinStrDigits exptime
  | .getMany keys | .getsMany keys => keys ≠ [] && keys.all isKeyValid
  | .gatMany exptime keys | .gatsMany exptime keys =>
    keys ≠ [] && keys.all isKeyValid && withinStrDigits exptime
  | .set key value flags exptime _ | .add key value flags exptime _
  | .replace key value flags exptime _ =>
    isKeyValid key && flagsInRange flags && withinStrDigits exptime &&
      withinStrDigits value.length
  | .cas key value token flags exptime _ =>
    isKeyValid key && flagsInRange flags && 0 ≤ token && token ≤ 2 ^ 64 &&
      withinStrDigits exptime && withinStrDigits value.length
  | .increment key value _ | .decrement key value _ =>
    isKeyValid key && 0 ≤ value && withinStrDigits value
  | .flushAll delay _ => withinStrDigits delay
  | .cacheMemlimit value _ => withinStrDigits value
  | .verbosity level _ => withinStrDigits level
  | .version => true
  | .stats args => args.all isTokenStr

/-! ## 1.  One frame

### Lines of words -/

theorem joinSpace_cons_cons (x y : Bytes) (ys : List Bytes) :
    joinSpace (x :: y :: ys) = x ++ [32] ++ joinSpace (y :: ys) := by
  simp [joinSpace, List.intercalate, List.intersperse_cons_cons]

@[simp] theorem joinSpace_singleton (x : Bytes) : joinSpace [x] = x := by
  simp [joinSpace, List.intercalate]

theorem joinSpace_cons {x : Bytes} {xs : List Bytes} (h : xs ≠ []) :
    joinSpace (x :: xs) = x ++ [32] ++ joinSpace xs := by
  obtain ⟨y, ys, rfl⟩ := List.exists_cons_of_ne_nil h
  exact joinSpace_cons_cons x y ys

theorem mem_joinSpace {ts : List Bytes} {b : UInt8} (h : b ∈ joinSpace ts) :
    b = 32 ∨ ∃ t ∈ ts, b ∈ t := by
  induction ts with
  | nil => simp [joinSpace, List.intercalate] at h
  | cons t ts ih =>
    cases ts with
    | nil => exact .inr ⟨t, by simp, by simpa using h⟩
    | cons t' ts' =>
      rw [joinSpace_cons_cons] at h
      simp only [List.mem_append, List.mem_singleton] at h
      rcases h with (h | h) | h
      · exact .inr ⟨t, by simp, h⟩
      · exact .inl h
      · rcases ih h with h | ⟨u, hu, hb⟩
        · exact .inl h
        · exact .inr ⟨u, List.mem_cons_of_mem t hu, hb⟩

/-- A token of a request line: non-empty, with no byte below `0x21`. -/
def IsWord (t : Bytes) : Prop := t ≠ [] ∧ ∀ b ∈ t, 0x21 ≤ b.toNat

theorem takeLine_append {line : Bytes} (h : ∀ b ∈ line, b.toNat ≠ 13) (rest : Bytes) :
    takeLine (line ++ 13 :: 10 :: rest) = some (line, rest) := by
  induction line with
  | nil => rfl
  | cons b line ih =>
    have hb : b ≠ 13 := fun hb => h b (List.mem_cons_self b line) (by subst hb; rfl)
    rw [List.cons_append, takeLine.eq_2 _ _ (fun _ h13 _ => hb h13),
      ih fun x hx => h x (List.mem_cons_of_mem b hx)]
    rfl

theorem verbOf?_name (v : Verb) : verbOf? v.name = some v := by
  cases v <;> rfl


theorem isWord_name (v : Verb) : IsWord v.name := by
  unfold IsWord; cases v <;> decide

theorem isWord_of_isKeyValid {k : Bytes} (h : isKeyValid k = true) : IsWord k :=
  ⟨((isKeyValid_iff k).mp h).1, fun _ hb => le_of_mem_valid_key h hb⟩

theorem isWord_decimal (n : Nat) : IsWord (decimal n) :=
  ⟨decimal_ne_nil n, fun _ hb => by have := mem_decimal hb; omega⟩

theorem isWord_numeral (z : Int) : IsWord (numeral z) :=
  ⟨numeral_ne_nil z, fun b hb => by rcases mem_numeral hb with rfl | h <;> [decide; omega]⟩

theorem isWord_of_isToken {t : Bytes} (h : isToken t = true) : IsWord t := by
  simp only [isToken, Bool.and_eq_true, decide_eq_true_eq, List.all_eq_true] at h
  exact ⟨h.1, fun b hb => (h.2 b hb).1⟩

/-- `[b"noreply"]` when `noreply` is set: the last token of a request that asks for no
reply. -/
def noreplyWords (noreply : Bool) : List Bytes := if noreply then [ascii "noreply"] else []

theorem isWord_of_mem_noreplyWords {nr : Bool} {t : Bytes} (h : t ∈ noreplyWords nr) :
    IsWord t := by
  cases nr <;> simp [noreplyWords] at h; subst h; unfold IsWord; decide

/-- **One frame parses**: a line of words, CR LF and the rest is read as the command its
first word names, on the other words. -/
theorem parseRequest_words (v : Verb) {args : List Bytes} (h : ∀ a ∈ args, IsWord a)
    (rest : Bytes) :
    parseRequest (joinSpace (v.name :: args) ++ crlf ++ rest) = parseCommand v args rest := by
  have hall : ∀ t ∈ v.name :: args, IsWord t := by
    simpa using ⟨isWord_name v, h⟩
  have hline : ∀ b ∈ joinSpace (v.name :: args), b.toNat ≠ 13 := fun b hb => by
    rcases mem_joinSpace hb with rfl | ⟨t, ht, hbt⟩
    · decide
    · have := (hall t ht).2 b hbt; omega
  have hsplit : (joinSpace (v.name :: args)).splitOn 32 = v.name :: args :=
    List.splitOn_intercalate _ 32 (fun t ht h32 => absurd ((hall t ht).2 32 h32) (by decide))
      (List.cons_ne_nil _ _)
  simp only [parseRequest, crlf, List.append_assoc, List.cons_append, List.nil_append,
    takeLine_append hline, Option.bind_eq_bind, Option.some_bind, hsplit, verbOf?_name]

theorem parseKey_of_valid {k : Bytes} (h : isKeyValid k = true) : parseKey k = some k := by
  simp [parseKey, h]

theorem parseKeys_of_valid {ks : List Bytes} (hne : ks ≠ []) (h : ∀ k ∈ ks, isKeyValid k = true) :
    parseKeys ks = some ks := by
  simpa [parseKeys, hne] using h

theorem parseNat_numeral {z : Int} (h : 0 ≤ z) : parseNat (numeral z) = some z.toNat := by
  rw [numeral_of_nonneg h, parseNat_decimal]

theorem parseFlags_numeral {f : Int} (h0 : 0 ≤ f) (h1 : f < 2 ^ 16) :
    parseFlags (numeral f) = some f.toNat := by
  simp only [parseFlags, parseNat_numeral h0, Option.filter, decide_eq_true_eq]
  rw [if_pos (by omega)]

theorem parseNoreply_words (nr : Bool) : parseNoreply (noreplyWords nr) = some nr := by
  cases nr <;> rfl

theorem takePayload_append (value rest : Bytes) :
    takePayload value.length (value ++ (crlf ++ rest)) = some (value, rest) := by
  simp [takePayload, crlf]


/-! ### The frame of each call -/

/-- The command name a call's frame starts with. -/
def Call.verb : Call → Verb
  | .get _ | .getMany _ => .get
  | .gets _ | .getsMany _ => .gets
  | .set .. => .set
  | .add .. => .add
  | .replace .. => .replace
  | .append .. => .append
  | .prepend .. => .prepend
  | .cas .. => .cas
  | .increment .. => .incr
  | .decrement .. => .decr
  | .touch .. => .touch
  | .delete .. => .delete
  | .flushAll .. => .flushAll
  | .version => .version
  | .gat .. | .gatMany .. => .gat
  | .gats .. | .gatsMany .. => .gats
  | .cacheMemlimit .. => .cacheMemlimit
  | .stats _ => .stats
  | .verbosity .. => .verbosity

/-- The tokens after the command name on a call's request line. -/
def Call.words : Call → List Bytes
  | .get key | .gets key => [key]
  | .getMany keys | .getsMany keys => keys
  | .set key value flags exptime noreply | .add key value flags exptime noreply
  | .replace key value flags exptime noreply =>
    [key, numeral flags, numeral exptime, decimal value.length] ++ noreplyWords noreply
  | .append key value noreply | .prepend key value noreply =>
    [key, numeral 0, numeral 0, decimal value.length] ++ noreplyWords noreply
  | .cas key value token flags exptime noreply =>
    [key, numeral flags, numeral exptime, decimal value.length, numeral token] ++
      noreplyWords noreply
  | .increment key value noreply | .decrement key value noreply =>
    [key, numeral value] ++ noreplyWords noreply
  | .touch key exptime noreply => [key, numeral exptime] ++ noreplyWords noreply
  | .delete key noreply => [key] ++ noreplyWords noreply
  | .flushAll delay noreply => [numeral delay] ++ noreplyWords noreply
  | .version => []
  | .gat exptime key | .gats exptime key => [numeral exptime, key]
  | .gatMany exptime keys | .gatsMany exptime keys => numeral exptime :: keys
  | .cacheMemlimit value noreply => [numeral value] ++ noreplyWords noreply
  | .stats args => args.map asciiBytes
  | .verbosity level noreply => [numeral level] ++ noreplyWords noreply

/-- What follows a call's request line: the value and CR LF for a storage call. -/
def Call.body : Call → Bytes
  | .set _ value .. | .add _ value .. | .replace _ value .. | .append _ value _
  | .prepend _ value _ | .cas _ value .. => value ++ crlf
  | _ => []

theorem joinSpace_append_noreply {xs : List Bytes} (h : xs ≠ []) (nr : Bool) :
    joinSpace (xs ++ noreplyWords nr) = joinSpace xs ++ noreplySuffix nr := by
  cases nr
  · simp [noreplyWords, noreplySuffix]
  · induction xs with
    | nil => exact absurd rfl h
    | cons x xs ih =>
      cases xs with
      | nil => simp [noreplyWords, noreplySuffix, joinSpace_cons_cons]; rfl
      | cons y ys =>
        simp only [List.cons_append, joinSpace_cons_cons] at ih ⊢
        rw [ih (List.cons_ne_nil _ _)]; simp

theorem retrievalCommand_eq {ks : List Bytes} (hne : ks ≠ [])
    (h : ∀ k ∈ ks, isKeyValid k = true) (cmd : Bytes) :
    retrievalCommand cmd ks = .ok (joinSpace (cmd :: ks) ++ crlf) := by
  simp only [retrievalCommand, (checkKeys_eq_ok_iff ks).mpr h, joinSpace_cons hne]; rfl

theorem storageCommand_eq {key value : Bytes} {flags exptime : Int} {cas : Option Int}
    (h : checkStorageArgs key flags cas = .ok ()) (hf : withinStrDigits flags = true)
    (he : withinStrDigits exptime = true) (hn : withinStrDigits value.length = true)
    (hc : ∀ t ∈ cas, withinStrDigits t = true) (cmd : Bytes) (nr : Bool) :
    storageCommand cmd key value flags exptime nr cas =
      .ok (joinSpace ([cmd, key, numeral flags, numeral exptime, decimal value.length] ++
        cas.toList.map numeral ++ noreplyWords nr) ++ crlf ++ (value ++ crlf)) := by
  rw [joinSpace_append_noreply (by simp)]
  cases cas <;> simp_all [storageCommand, asciiInt_of_within, ok_bind, joinSpace_cons_cons, noreplySuffix]

theorem incrDecrCommand_eq {key : Bytes} {value : Int} (h : checkIncrDecrArgs key value = .ok ())
    (hv : withinStrDigits value = true) (cmd : Bytes) (nr : Bool) :
    incrDecrCommand cmd key value nr =
      .ok (joinSpace ([cmd, key, numeral value] ++ noreplyWords nr) ++ crlf) := by
  rw [joinSpace_append_noreply (by simp)]
  simp [incrDecrCommand, h, asciiInt_of_within hv, ok_bind, joinSpace_cons_cons, List.append_assoc]

theorem getAndTouchCommand_eq {ks : List Bytes} (hne : ks ≠ [])
    (h : ∀ k ∈ ks, isKeyValid k = true) {exptime : Int} (he : withinStrDigits exptime = true)
    (cmd : Bytes) :
    getAndTouchCommand cmd exptime ks = .ok (joinSpace (cmd :: numeral exptime :: ks) ++ crlf) := by
  simp only [getAndTouchCommand, (checkKeys_eq_ok_iff ks).mpr h, asciiInt_of_within he, ok_bind,
    joinSpace_cons hne, joinSpace_cons (List.cons_ne_nil _ _), List.append_assoc]; rfl

theorem joinSpace_words (v : Verb) {xs : List Bytes} (hxs : xs ≠ []) (nr : Bool) :
    joinSpace (v.name :: (xs ++ noreplyWords nr)) =
      v.name ++ [32] ++ joinSpace xs ++ noreplySuffix nr := by
  rw [← List.cons_append, joinSpace_append_noreply (List.cons_ne_nil _ _), joinSpace_cons hxs]

theorem withinStrDigits_of_flagsInRange {f : Int} (h : flagsInRange f = true) :
    withinStrDigits f = true := by
  simp only [flagsInRange, Bool.and_eq_true, decide_eq_true_eq] at h
  exact withinStrDigits_of_lt (k := 5) (by decide) (by decide) (by norm_num; omega)

theorem withinStrDigits_of_le_cas {t : Int} (h0 : 0 ≤ t) (h1 : t ≤ 2 ^ 64) :
    withinStrDigits t = true :=
  withinStrDigits_of_lt (k := 20) (by decide) (by decide) (by norm_num; omega)

theorem asciiBytes_intercalate (args : List PyStr) :
    asciiBytes ([32].intercalate args) = joinSpace (args.map asciiBytes) := by
  induction args with
  | nil => rfl
  | cons a as ih =>
    cases as with
    | nil => simp [List.intercalate]
    | cons b bs =>
      rw [intercalate_cons_cons, List.map_cons, List.map_cons, joinSpace_cons_cons,
        ← List.map_cons, ← ih]
      simp [asciiBytes]; rfl

theorem lt_of_mem_intercalate {args : List PyStr} (h : ∀ a ∈ args, ∀ c ∈ a, c.val < 0x80) :
    ∀ c ∈ [32].intercalate args, c.val < 0x80 := by
  induction args with
  | nil => simp [List.intercalate]
  | cons a as ih =>
    cases as with
    | nil => simpa [List.intercalate] using h a (List.mem_singleton_self a)
    | cons b bs =>
      rw [intercalate_cons_cons]
      intro c hc
      simp only [List.mem_append, List.mem_singleton] at hc
      rcases hc with (hc | rfl) | hc
      · exact h a (List.mem_cons_self a _) c hc
      · decide
      · exact ih (fun x hx => h x (List.mem_cons_of_mem a hx)) c hc

theorem pyEncode_stats {args : List PyStr} (h : args.all isTokenStr = true) :
    pyEncode ([32].intercalate args) = .ok (joinSpace (args.map asciiBytes)) := by
  rw [← asciiBytes_intercalate]
  refine pyEncode_ascii (lt_of_mem_intercalate fun a ha c hc => ?_)
  simp only [List.all_eq_true, isTokenStr, Bool.and_eq_true, decide_eq_true_eq] at h
  have := (h a ha).2 c hc; omega

/-- **Every frame is a line of words, CR LF, and the call's payload.** -/
theorem Call.frame_eq {c : Call} (hc : c.WellFormed = true) :
    c.frame = .ok (joinSpace (c.verb.name :: c.words) ++ crlf ++ c.body) := by
  cases c with
  | get key | gets key =>
    simp only [Call.WellFormed] at hc
    simp [Call.frame, retrievalCommand_eq (List.cons_ne_nil _ []) (by simpa using hc), Call.words,
      Call.verb, Call.body]; rfl
  | getMany keys | getsMany keys =>
    simp only [Call.WellFormed, Bool.and_eq_true, decide_eq_true_eq, List.all_eq_true] at hc
    simp [Call.frame, retrievalCommand_eq hc.1 hc.2, Call.words, Call.verb, Call.body]; rfl
  | set key value flags exptime nr | add key value flags exptime nr
  | replace key value flags exptime nr =>
    simp only [Call.WellFormed, Bool.and_eq_true] at hc
    obtain ⟨⟨⟨hk, hf⟩, he⟩, hn⟩ := hc
    have hck := (checkStorageArgs_eq_ok_iff key flags none).mpr ⟨hk, by
      simp only [flagsInRange, Bool.and_eq_true, decide_eq_true_eq] at hf
      simp only [maxAllowedFlagValue]; omega, by simp⟩
    simp [Call.frame, storageCommand_eq hck (withinStrDigits_of_flagsInRange hf) he hn (by simp),
      Call.words, Call.verb, Call.body]; rfl
  | append key value nr | prepend key value nr =>
    simp only [Call.WellFormed, Bool.and_eq_true] at hc
    have hck := (checkStorageArgs_eq_ok_iff key 0 none).mpr
      ⟨hc.1, by simp [maxAllowedFlagValue], by simp⟩
    simp [Call.frame, storageCommand_eq hck (show withinStrDigits (0 : Int) = true by decide)
      (show withinStrDigits (0 : Int) = true by decide) hc.2 (by simp), Call.words, Call.verb,
      Call.body]; rfl
  | cas key value token flags exptime nr =>
    simp only [Call.WellFormed, Bool.and_eq_true, decide_eq_true_eq] at hc
    obtain ⟨⟨⟨⟨⟨hk, hf⟩, h0⟩, h1⟩, he⟩, hn⟩ := hc
    have hck := (checkStorageArgs_eq_ok_iff key flags (some token)).mpr ⟨hk, by
      simp only [flagsInRange, Bool.and_eq_true, decide_eq_true_eq] at hf
      simp only [maxAllowedFlagValue]; omega, by simp [maxAllowedCasValue]; omega⟩
    simp [Call.frame, storageCommand_eq hck (withinStrDigits_of_flagsInRange hf) he hn
      (by simpa using withinStrDigits_of_le_cas h0 h1), Call.words, Call.verb, Call.body]; rfl
  | increment key value nr | decrement key value nr =>
    simp only [Call.WellFormed, Bool.and_eq_true, decide_eq_true_eq] at hc
    have hck := (checkIncrDecrArgs_eq_ok_iff key value).mpr hc.1
    simp [Call.frame, incrDecrCommand_eq hck hc.2, Call.words, Call.verb, Call.body]; rfl
  | gat exptime key | gats exptime key =>
    simp only [Call.WellFormed, Bool.and_eq_true] at hc
    simp [Call.frame, getAndTouchCommand_eq (List.cons_ne_nil _ []) (by simpa using hc.1) hc.2,
      Call.words, Call.verb, Call.body]; rfl
  | gatMany exptime keys | gatsMany exptime keys =>
    simp only [Call.WellFormed, Bool.and_eq_true, decide_eq_true_eq, List.all_eq_true] at hc
    simp [Call.frame, getAndTouchCommand_eq hc.1.1 hc.1.2 hc.2, Call.words, Call.verb,
      Call.body]; rfl
  | touch key exptime nr =>
    simp only [Call.WellFormed, Bool.and_eq_true] at hc
    simp only [Call.frame, asciiInt_of_within hc.2, ok_bind, Call.words, Call.verb, Call.body,
      joinSpace_words _ (List.cons_ne_nil _ _)]
    simp [joinSpace_cons_cons]; rfl
  | delete key nr =>
    simp only [Call.frame, Call.words, Call.verb, Call.body, joinSpace_words _ (List.cons_ne_nil _ _)]
    simp [joinSpace_cons_cons]; rfl
  | flushAll z nr | cacheMemlimit z nr | verbosity z nr =>
    simp only [Call.WellFormed] at hc
    simp only [Call.frame, asciiInt_of_within hc, ok_bind, Call.words, Call.verb, Call.body,
      joinSpace_words _ (List.cons_ne_nil _ _)]
    simp [joinSpace_cons_cons]; rfl
  | version => rfl
  | stats args =>
    simp only [Call.WellFormed] at hc
    simp only [Call.frame, Call.words, Call.verb, Call.body]
    cases args with
    | nil => rfl
    | cons a as =>
      rw [if_neg (List.cons_ne_nil a as), pyEncode_stats hc, ok_bind]
      simp [joinSpace_cons_cons]; rfl

/-! ### Reading a frame back -/

/-- The `noreply` token adds no word that is not one. -/
theorem forall_isWord_append_noreply (xs : List Bytes) (nr : Bool) :
    (∀ t ∈ xs ++ noreplyWords nr, IsWord t) ↔ ∀ t ∈ xs, IsWord t :=
  ⟨fun h t ht => h t (List.mem_append_left _ ht), fun h t ht =>
    (List.mem_append.mp ht).elim (h t) isWord_of_mem_noreplyWords⟩

theorem isWord_asciiBytes {a : PyStr} (h : isTokenStr a = true) : IsWord (asciiBytes a) := by
  simp only [isTokenStr, Bool.and_eq_true, decide_eq_true_eq, List.all_eq_true] at h
  refine ⟨by simpa [asciiBytes] using h.1, fun b hb => ?_⟩
  obtain ⟨c, hc, rfl⟩ := List.mem_map.mp hb
  have := h.2 c hc
  have h8 : (c.val.toUInt8).toNat = c.val := UInt8.toNat_ofNat_of_lt (show c.val < 256 by omega)
  omega

theorem isToken_asciiBytes {a : PyStr} (h : isTokenStr a = true) : isToken (asciiBytes a) = true := by
  simp only [isTokenStr, Bool.and_eq_true, decide_eq_true_eq, List.all_eq_true] at h
  simp only [isToken, Bool.and_eq_true, decide_eq_true_eq, List.all_eq_true]
  refine ⟨by simpa [asciiBytes] using h.1, fun b hb => ?_⟩
  obtain ⟨c, hc, rfl⟩ := List.mem_map.mp hb
  have := h.2 c hc
  have h8 : (c.val.toUInt8).toNat = c.val := UInt8.toNat_ofNat_of_lt (show c.val < 256 by omega)
  omega

theorem mem_words {c : Call} (hc : c.WellFormed = true) : ∀ t ∈ c.words, IsWord t := by
  cases c <;> simp only [Call.WellFormed, Bool.and_eq_true, List.all_eq_true] at hc <;>
    simp +contextual only [Call.words, forall_isWord_append_noreply, List.forall_mem_cons,
      List.forall_mem_map, List.not_mem_nil, false_implies, implies_true, and_true,
      isWord_numeral, isWord_decimal, isWord_of_isKeyValid, hc, isWord_asciiBytes]

/-- **The words of a frame read back as the call's request.** -/
theorem Call.parseCommand_words {c : Call} (hc : c.WellFormed = true) (rest : Bytes) :
    parseCommand c.verb c.words (c.body ++ rest) = some (c.request, rest) := by
  unfold parseCommand
  cases c <;> simp only [Call.WellFormed, flagsInRange, Bool.and_eq_true, decide_eq_true_eq,
      List.all_eq_true, and_assoc] at hc <;>
    simp_all only [Call.verb, Call.words, Call.body, Call.request, List.nil_append,
      List.cons_append, List.singleton_append, List.append_assoc, ne_eq, List.cons_ne_self,
      not_false_eq_true, List.mem_singleton, implies_true, le_refl, Nat.ofNat_pos, pow_pos,
      Int.toNat_zero, Option.map_eq_map, Option.map_some', Option.pure_def, Option.bind_eq_bind,
      Option.some_bind, List.all_eq_true, List.mem_map, forall_exists_index, and_imp,
      forall_apply_eq_imp_iff₂, ite_true, parseKey_of_valid, parseKeys_of_valid,
      parseInt_numeral, parseNat_decimal, parseNoreply_words, takePayload_append,
      parseFlags_numeral, parseNat_numeral, isToken_asciiBytes]

/-! ## 2.  Whole stacks -/

/-- The bytes a well-formed call appends. -/
def Call.wire (c : Call) : Bytes := joinSpace (c.verb.name :: c.words) ++ crlf ++ c.body

/-- **A frame parses to its call's request, whatever follows it.** -/
theorem Call.parseRequest_wire {c : Call} (hc : c.WellFormed = true) (rest : Bytes) :
    parseRequest (c.wire ++ rest) = some (c.request, rest) := by
  rw [Call.wire, List.append_assoc, parseRequest_words c.verb (mem_words hc),
    Call.parseCommand_words hc]

theorem Call.wire_ne_nil (c : Call) : c.wire ≠ [] := by
  simp [Call.wire, crlf]

/-- **A stack of well-formed frames parses to their requests, in order.** -/
theorem parseRequestsAux_wires {cs : List Call} (h : ∀ c ∈ cs, c.WellFormed = true)
    {fuel : Nat} (hfuel : cs.length ≤ fuel) :
    parseRequestsAux fuel (cs.map Call.wire).flatten = some (cs.map Call.request) := by
  induction cs generalizing fuel with
  | nil => cases fuel <;> rfl
  | cons c cs ih =>
    obtain ⟨fuel, rfl⟩ : ∃ f, fuel = f + 1 := ⟨fuel - 1, by simp at hfuel; omega⟩
    obtain ⟨x, xs, hx⟩ := List.exists_cons_of_ne_nil
      (List.append_ne_nil_of_left_ne_nil (Call.wire_ne_nil c) (cs.map Call.wire).flatten)
    have hc := h c (List.mem_cons_self c cs)
    simp only [List.map_cons, List.flatten_cons, List.map_cons]
    have hlen : cs.length ≤ fuel := by simp at hfuel; omega
    rw [hx, parseRequestsAux, ← hx, Call.parseRequest_wire hc]
    · simp only [Option.bind_eq_bind, Option.some_bind]
      rw [ih (fun c' hc' => h c' (List.mem_cons_of_mem c hc')) hlen]
      rfl
    · exact List.cons_ne_nil x xs

theorem length_le_flatten_wires (cs : List Call) :
    cs.length ≤ (cs.map Call.wire).flatten.length := by
  induction cs with
  | nil => simp
  | cons c cs ih =>
    have := List.length_pos.mpr (Call.wire_ne_nil c)
    simp only [List.map_cons, List.flatten_cons, List.length_append, List.length_cons]; omega

/-- **Pipeline framing round trip.**  A chain of well-formed builder calls on an empty
pipeline returns normally, leaves one frame per call, and the joined stack parses by
the request grammar to exactly the calls' requests, in order. -/
theorem pipeline_frames_parse (cs : List Call) (h : ∀ c ∈ cs, c.WellFormed = true) :
    ∃ p, (Pipeline.mk []).run cs = .ok p ∧ p.stack.length = cs.length ∧
      parseRequests p.stack.flatten = some (cs.map Call.request) := by
  have hfr : List.Forall₂ (fun c f => c.frame = .ok f) cs (cs.map Call.wire) := by
    rw [List.forall₂_map_right_iff, List.forall₂_same]
    exact fun c hc => Call.frame_eq (h c hc)
  refine ⟨_, run_of_forall₂ hfr, by simp, ?_⟩
  exact parseRequestsAux_wires h (length_le_flatten_wires cs)

theorem pipeline_frames_parse_get_set_stats :
    ∃ p, (Pipeline.mk []).run [.get (ascii "k"), .set (ascii "k") (ascii "v\r\n") 7 0 true,
        .stats [pyStr "items"]] = .ok p ∧ p.stack.length = 3 ∧
      parseRequests p.stack.flatten = some ([.get (ascii "k"),
        .set (ascii "k") (ascii "v\r\n") 7 0 true, .stats [pyStr "items"]].map Call.request) :=
  pipeline_frames_parse _ (by decide)

/-! ## 3.  Where the round trip needs more than the builder checks -/

/-- A `stats` argument holding a space reaches the wire as two arguments. -/
theorem stats_space_splits :
    ∃ p, (Pipeline.mk []).run [.stats [pyStr "a b"]] = .ok p ∧
      parseRequests p.stack.flatten ≠ some ([Call.stats [pyStr "a b"]].map Call.request) :=
  ⟨_, rfl, by decide⟩

end Pipeline

end Emcache
