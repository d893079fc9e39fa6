import Emcache.Basic

/-!
# The Python library calls the client makes

A few library operations decide what the client sends and hands back, and none of them
is written in the repository, so they are modelled here from the language's own rules
(CPython 3.11 with its defaults).

* `bytes.decode()` with its defaults is strict UTF-8 (`utf8Decode`).  One character is
  read by `utf8Char`, which accepts exactly the well-formed sequences of the Unicode
  standard (no overlong forms, no surrogates, nothing past `U+10FFFF`); the loop runs on a
  fuel of one step per byte, which is enough because every character takes at least one
  byte.  `utf8Decode_ascii` says that ASCII decodes letter for letter, and
  `utf8Decode_eq_none_of_mem` that a byte `0xF5` or above (`0xFF`, say) anywhere makes
  the whole decode raise `UnicodeDecodeError`.
* `str.encode()` with its defaults is strict UTF-8 over code points (`pyEncode`); a
  Python `str` is a list of code points (`PyStr`), which may hold a lone surrogate, and
  that raises `UnicodeEncodeError`.
* `int(b)` on `bytes` (`pyInt`): surrounding ASCII whitespace is stripped, one sign is
  allowed, and the digits may be grouped by single underscores (PEP 515).  Anything else
  raises `ValueError`; `pyInt_letter` records that a reply beginning with a letter, such
  as every `ERROR`, `CLIENT_ERROR` and `SERVER_ERROR` line, is not an integer.  As in
  CPython from 3.11 on, a numeral of more than `intMaxStrDigits` digits raises
  `ValueError` too, before the rest of the argument is looked at.
* `dict(pairs)` (`PyDict.ofPairs`): a later pair with a key already present replaces
  its value.  `PyDict.get?_ofPairs` is the "last occurrence wins" reading.
-/

namespace Emcache

/-! ## `bytes.decode()` -/

/-- A continuation byte, `10xxxxxx`. -/
def isCont (b : UInt8) : Bool := 0x80 ≤ b.toNat && b.toNat ≤ 0xBF

/-- The range of the first continuation byte after a three-byte lead: after `E0` it
excludes the overlong forms, after `ED` the surrogates. -/
def cont3Range (b : Nat) : Nat × Nat :=
  if b = 0xE0 then (0xA0, 0xBF) else if b = 0xED then (0x80, 0x9F) else (0x80, 0xBF)

/-- The range of the first continuation byte after a four-byte lead: after `F0` it
excludes the overlong forms, after `F4` everything past `U+10FFFF`. -/
def cont4Range (b : Nat) : Nat × Nat :=
  if b = 0xF0 then (0x90, 0xBF) else if b = 0xF4 then (0x80, 0x8F) else (0x80, 0xBF)

/-- Whether a byte lies in a range. -/
def inRange (r : Nat × Nat) (c : UInt8) : Bool := r.1 ≤ c.toNat && c.toNat ≤ r.2

/-- One UTF-8 character off the front of the bytes, and the bytes after it. -/
def utf8Char : Bytes → Option (Char × Bytes)
  | [] => none
  | b :: rest =>
    if b.toNat < 0x80 then some (Char.ofNat b.toNat, rest)
    else if 0xC2 ≤ b.toNat ∧ b.toNat ≤ 0xDF then
      match rest with
      | c1 :: rest =>
        if isCont c1 then some (Char.ofNat ((b.toNat % 32) * 64 + c1.toNat % 64), rest)
        else none
      | [] => none
    else if 0xE0 ≤ b.toNat ∧ b.toNat ≤ 0xEF then
      match rest with
      | c1 :: c2 :: rest =>
        if inRange (cont3Range b.toNat) c1 && isCont c2 then
          some (Char.ofNat ((b.toNat % 16) * 4096 + (c1.toNat % 64) * 64 + c2.toNat % 64), rest)
        else none
      | _ => none
    else if 0xF0 ≤ b.toNat ∧ b.toNat ≤ 0xF4 then
      match rest with
      | c1 :: c2 :: c3 :: rest =>
        if inRange (cont4Range b.toNat) c1 && isCont c2 && isCont c3 then
          some (Char.ofNat ((b.toNat % 8) * 262144 + (c1.toNat % 64) * 4096 +
            (c2.toNat % 64) * 64 + c3.toNat % 64), rest)
        else none
      | _ => none
    else none

/-- The decoding loop, one character a step. -/
def utf8DecodeAux : Nat → Bytes → Option Str
  | _, [] => some []
  | 0, _ :: _ => none
  | fuel + 1, bs => do
    let (c, rest) ← utf8Char bs
    (c :: ·) <$> utf8DecodeAux fuel rest

/-- `b.decode()`: `none` is the `UnicodeDecodeError`. -/
def utf8Decode (bs : Bytes) : Option Str := utf8DecodeAux bs.length bs

theorem lt_of_isCont {c : UInt8} (h : isCont c = true) : c.toNat < 0xC0 := by
  simp only [isCont, Bool.and_eq_true, decide_eq_true_eq] at h; omega

theorem lt_of_inRange3 {b : Nat} {c : UInt8} (h : inRange (cont3Range b) c = true) :
    c.toNat < 0xC0 := by
  simp only [inRange, cont3Range, Bool.and_eq_true, decide_eq_true_eq] at h
  split_ifs at h <;> omega

theorem lt_of_inRange4 {b : Nat} {c : UInt8} (h : inRange (cont4Range b) c = true) :
    c.toNat < 0xC0 := by
  simp only [inRange, cont4Range, Bool.and_eq_true, decide_eq_true_eq] at h
  split_ifs at h <;> omega

/-- **What one decoding step consumes**: a lead byte below `0xF5`, then continuation
bytes, all below `0xC0`. -/
theorem utf8Char_some {b : UInt8} {rest rest' : Bytes} {c : Char}
    (h : utf8Char (b :: rest) = some (c, rest')) :
    b.toNat < 0xF5 ∧ ∃ k, rest = k ++ rest' ∧ ∀ x ∈ k, x.toNat < 0xC0 := by
  simp only [utf8Char] at h
  split at h
  · cases h; exact ⟨by omega, [], rfl, by simp⟩
  split at h
  · split at h
    · split at h
      · cases h
        exact ⟨by omega, [_], rfl, by simpa using lt_of_isCont ‹_›⟩
      · cases h
    · cases h
  split at h
  · split at h
    · split at h
      · cases h
        simp only [Bool.and_eq_true] at *
        exact ⟨by omega, [_, _], rfl, by
          simpa using ⟨lt_of_inRange3 (by tauto), lt_of_isCont (by tauto)⟩⟩
      · cases h
    · cases h
  split at h
  · split at h
    · split at h
      · cases h
        simp only [Bool.and_eq_true] at *
        exact ⟨by omega, [_, _, _], rfl, by
          simpa using ⟨lt_of_inRange4 (by tauto), lt_of_isCont (by tauto), lt_of_isCont (by tauto)⟩⟩
      · cases h
    · cases h
  cases h

/-- Every byte of a decodable stream is below `0xF5`. -/
theorem lt_of_utf8DecodeAux {fuel : Nat} {bs : Bytes} {cs : Str}
    (h : utf8DecodeAux fuel bs = some cs) : ∀ b ∈ bs, b.toNat < 0xF5 := by
  induction fuel generalizing bs cs with
  | zero => cases bs with
    | nil => simp
    | cons b rest => simp [utf8DecodeAux] at h
  | succ f ih => cases bs with
    | nil => simp
    | cons b rest =>
      simp only [utf8DecodeAux, Option.bind_eq_bind, Option.bind_eq_some] at h
      obtain ⟨⟨c, rest'⟩, hc, h⟩ := h
      obtain ⟨cs', hcs', -⟩ := Option.map_eq_some'.mp h
      obtain ⟨hb, k, rfl, hk⟩ := utf8Char_some hc
      intro x hx
      simp only [List.mem_cons, List.mem_append] at hx
      rcases hx with rfl | hx | hx
      · exact hb
      · exact lt_trans (hk x hx) (by norm_num)
      · exact ih hcs' x hx

/-- **A byte `0xF5` or above anywhere makes `decode()` raise.** -/
theorem utf8Decode_eq_none_of_mem {bs : Bytes} {b : UInt8} (hb : b ∈ bs)
    (hge : 0xF5 ≤ b.toNat) : utf8Decode bs = none := by
  cases h : utf8Decode bs with
  | none => rfl
  | some cs => exact absurd (lt_of_utf8DecodeAux h b hb) (by omega)

/-- ASCII decodes letter for letter. -/
theorem utf8Decode_ascii {bs : Bytes} (h : ∀ b ∈ bs, b.toNat < 0x80) :
    utf8Decode bs = some (bs.map fun b => Char.ofNat b.toNat) := by
  unfold utf8Decode
  induction bs with
  | nil => rfl
  | cons b rest ih =>
    have hb : b.toNat < 0x80 := h b (List.mem_cons_self b rest)
    simp only [List.length_cons, utf8DecodeAux, utf8Char, if_pos hb, Option.bind_eq_bind,
      Option.some_bind, List.map_cons]
    rw [ih fun x hx => h x (List.mem_cons_of_mem b hx)]
    rfl

/-! ## `str.encode()` -/

theorem char_toNat_lt (c : Char) : c.toNat < 0x110000 := by
  rcases c.valid with h | h <;> simp only [Char.toNat] <;> omega

/-- A Python `str`, as its code points.  Unlike a Lean `Char`, a code point may be a lone
surrogate (`"\ud800"`): Python text can hold one, and UTF-8 cannot encode it. -/
abbrev PyStr := List (Fin 0x110000)

/-- The code points of a string literal. -/
def pyStr (s : String) : PyStr := s.toList.map fun c => ⟨c.toNat, char_toNat_lt c⟩

/-- A code point from `U+D800` to `U+DFFF`. -/
def isSurrogate (c : Fin 0x110000) : Bool := 0xD800 ≤ c.val && c.val ≤ 0xDFFF

/-- The UTF-8 bytes of a code point that is not a surrogate. -/
def utf8Encode1 (c : Nat) : Bytes :=
  if c < 0x80 then [c.toUInt8]
  else if c < 0x800 then [(0xC0 + c / 64).toUInt8, (0x80 + c % 64).toUInt8]
  else if c < 0x10000 then
    [(0xE0 + c / 4096).toUInt8, (0x80 + c / 64 % 64).toUInt8, (0x80 + c % 64).toUInt8]
  else
    [(0xF0 + c / 262144).toUInt8, (0x80 + c / 4096 % 64).toUInt8, (0x80 + c / 64 % 64).toUInt8,
      (0x80 + c % 64).toUInt8]

/-- `s.encode()` with its defaults: strict UTF-8, and `UnicodeEncodeError` (a `ValueError`)
on a lone surrogate. -/
def pyEncode (s : PyStr) : Except PyExc Bytes :=
  if s.any isSurrogate then .error .unicodeEncodeError
  else .ok (s.flatMap fun c => utf8Encode1 c.val)

/-- The bytes of an ASCII `str`, one a code point. -/
def asciiBytes (s : PyStr) : Bytes := s.map fun c => c.val.toUInt8

/-- ASCII encodes letter for letter. -/
theorem pyEncode_ascii {s : PyStr} (h : ∀ c ∈ s, c.val < 0x80) : pyEncode s = .ok (asciiBytes s) := by
  have hs : s.any isSurrogate = false :=
    List.any_eq_false.mpr fun c hc => by have := h c hc; simp [isSurrogate]; omega
  rw [pyEncode, if_neg (by simp [hs])]
  congr 1
  clear hs
  induction s with
  | nil => rfl
  | cons c s ih =>
    rw [List.flatMap_cons, utf8Encode1, if_pos (h c (List.mem_cons_self c s)),
      ih fun d hd => h d (List.mem_cons_of_mem c hd)]
    rfl

/-- A lone surrogate anywhere makes the whole encode raise. -/
theorem pyEncode_surrogate {s : PyStr} {c : Fin 0x110000} (hc : c ∈ s) (h : isSurrogate c = true) :
    pyEncode s = .error .unicodeEncodeError :=
  if_pos (List.any_eq_true.mpr ⟨c, hc, h⟩)

/-! ## `int()` -/

/-- `Py_ISSPACE`: the bytes `int` strips around its argument. -/
def isPySpace (b : UInt8) : Bool := b.toNat = 32 || (9 ≤ b.toNat && b.toNat ≤ 13)

/-- The argument with its surrounding whitespace removed. -/
def pyStrip (s : Bytes) : Bytes :=
  ((s.dropWhile isPySpace).reverse.dropWhile isPySpace).reverse

/-- Base-10 digits in groups separated by single underscores. -/
def parseUnderscored (ds : Bytes) : Option Nat :=
  if (ds.splitOn 95).all (· ≠ []) then parseNat (ds.splitOn 95).flatten else none

/-- The value `int(s)` finds in `s`, if `s` is an integer literal: after stripping, an
optional sign and the digits. -/
def pyIntValue? (s : Bytes) : Option Int :=
  match pyStrip s with
  | [] => none
  | b :: ds =>
    if b = 45 then (fun n => -(n : Int)) <$> parseUnderscored ds
    else if b = 43 then (fun n => (n : Int)) <$> parseUnderscored ds
    else (fun n => (n : Int)) <$> parseUnderscored (b :: ds)

/-- The message of the `ValueError` of `int`; CPython appends the argument's `repr`. -/
def intLiteralMsg : String := "invalid literal for int() with base 10"

/-- The message of the `ValueError` of `int` on a numeral of `n` digits, past the limit. -/
def intFromStrLimitMsg (n : Nat) : String :=
  "Exceeds the limit (4300 digits) for integer string conversion: value has " ++ toString n ++
    " digits; use sys.set_int_max_str_digits() to increase the limit"

/-- The digits and underscores `PyLong_FromString` scans after the whitespace and the
sign, up to the first other byte. -/
def digitRun (s : Bytes) : Bytes :=
  let t := s.dropWhile isPySpace
  let t := match t with
    | b :: ds => if b = 45 ∨ b = 43 then ds else t
    | [] => []
  t.takeWhile fun b => b = 95 || (48 ≤ b.toNat && b.toNat ≤ 57)

/-- `int(s)` for `s : bytes`.  A scanned run of well-placed digits (single underscores
between them) longer than `intMaxStrDigits` raises before anything after it is read. -/
def pyInt (s : Bytes) : Except PyExc Int :=
  let run := digitRun s
  let digits := (run.filter (· ≠ 95)).length
  if (run.splitOn 95).all (· ≠ []) && intMaxStrDigits < digits then
    .error (.valueError (intFromStrLimitMsg digits))
  else
    match pyIntValue? s with
    | some z => .ok z
    | none => .error (.valueError intLiteralMsg)

/-- `int(s)` for `s : str`.  CPython first folds the non-ASCII Unicode digits and spaces
of `s` to ASCII; the model reads ASCII text only and refuses the rest. -/
def pyIntStr (s : Str) : Except PyExc Int :=
  if s.all (·.toNat < 128) then pyInt (s.map fun c => c.toNat.toUInt8)
  else .error (.valueError intLiteralMsg)

/-- `int(x)` for a regex group `x`, which is `None` when the group did not match. -/
def pyIntGroup : Option Str → Except PyExc Int
  | some s => pyIntStr s
  | none => .error .typeError

/-- An ASCII letter. -/
def isLetter (b : UInt8) : Bool :=
  (65 ≤ b.toNat && b.toNat ≤ 90) || (97 ≤ b.toNat && b.toNat ≤ 122)

theorem parseNat_cons_of_not_digit {b : UInt8} (hb : ¬(48 ≤ b.toNat ∧ b.toNat ≤ 57))
    (rest : Bytes) : parseNat (b :: rest) = none := by
  simp [parseNat, List.foldlM_cons, digitByte?, hb]

theorem flatten_splitOn_cons {b : UInt8} (hb : b ≠ 95) (rest : Bytes) :
    ∃ t, ((b :: rest).splitOn 95).flatten = b :: t := by
  simp only [List.splitOn, List.splitOnP_cons, beq_iff_eq, hb, if_false]
  cases h : rest.splitOnP (· == 95) with
  | nil => exact absurd h (List.splitOnP_ne_nil _ _)
  | cons g gs => exact ⟨g ++ gs.flatten, by simp⟩

/-- Stripping keeps a first byte that is not whitespace. -/
theorem pyStrip_cons {b : UInt8} (hb : isPySpace b = false) (rest : Bytes) :
    ∃ t, pyStrip (b :: rest) = b :: t := by
  have hd : ∀ l : Bytes, (l ++ [b]).dropWhile isPySpace = l.dropWhile isPySpace ++ [b] := by
    intro l
    induction l with
    | nil => simp [hb]
    | cons x l ih => by_cases hx : isPySpace x <;> simp [hx, ih]
  exact ⟨(rest.reverse.dropWhile isPySpace).reverse, by simp [pyStrip, hb, hd]⟩

theorem parseUnderscored_cons {b : UInt8} (hb : ¬(48 ≤ b.toNat ∧ b.toNat ≤ 57))
    (hb95 : b ≠ 95) (t : Bytes) : parseUnderscored (b :: t) = none := by
  obtain ⟨t', ht⟩ := flatten_splitOn_cons hb95 t
  unfold parseUnderscored
  split <;> simp [ht, parseNat_cons_of_not_digit hb]

/-- **A reply that begins with a letter is not an integer literal.** -/
theorem pyInt_letter {b : UInt8} (hb : isLetter b = true) (rest : Bytes) :
    pyInt (b :: rest) = .error (.valueError intLiteralMsg) := by
  simp only [isLetter, Bool.or_eq_true, Bool.and_eq_true, decide_eq_true_eq] at hb
  have hs : isPySpace b = false := by simp [isPySpace]; omega
  have hu := parseUnderscored_cons (b := b) (by omega) (fun h => by subst h; exact absurd hb (by decide))
  have h45 : b ≠ 45 := fun h => by subst h; exact absurd hb (by decide)
  have h43 : b ≠ 43 := fun h => by subst h; exact absurd hb (by decide)
  have hrun : digitRun (b :: rest) = [] := by
    simp only [digitRun, List.dropWhile_cons, hs, Bool.false_eq_true, if_false, h45, h43,
      or_self]
    have h95 : b ≠ 95 := fun h => by subst h; exact absurd hb (by decide)
    rw [List.takeWhile_cons, if_neg (by simp [h95]; omega)]
  obtain ⟨t, ht⟩ := pyStrip_cons hs rest
  simp [pyInt, hrun, pyIntValue?, ht, h45, h43, hu t]

theorem digitRun_sublist (s : Bytes) : (digitRun s).Sublist s := by
  refine (List.takeWhile_prefix _).sublist.trans
    (List.Sublist.trans ?_ (List.dropWhile_suffix isPySpace).sublist)
  generalize s.dropWhile isPySpace = t
  rcases t with _ | ⟨b, ds⟩
  · exact List.nil_sublist _
  · dsimp only
    split
    · exact List.sublist_cons_self _ _
    · exact List.Sublist.refl _

/-- An argument of at most `intMaxStrDigits` bytes never reaches the limit. -/
theorem pyInt_of_length_le {s : Bytes} (h : s.length ≤ intMaxStrDigits) :
    pyInt s = match pyIntValue? s with
      | some z => .ok z
      | none => .error (.valueError intLiteralMsg) := by
  have := (List.length_filter_le (fun b => decide (b ≠ 95)) (digitRun s)).trans
    (digitRun_sublist s).length_le
  refine if_neg ?_
  simp only [Bool.and_eq_true, decide_eq_true_eq, not_and, not_lt]
  intro; omega

/-! ## Sequences -/

/-- `s.removeprefix(p)`. -/
def removePrefix {α : Type} [DecidableEq α] (p s : List α) : List α :=
  if p <+: s then s.drop p.length else s

/-- `l[i]`, raising `IndexError` past the end. -/
def pyIndex {α : Type} (l : List α) (i : Nat) : Except PyExc α :=
  match l.get? i with
  | some a => .ok a
  | none => .error .indexError

theorem pyIndex_of_lt {α : Type} {l : List α} {i : Nat} (h : i < l.length) (d : α) :
    pyIndex l i = .ok (l.getD i d) := by
  simp [pyIndex, List.get?_eq_getElem?, List.getElem?_eq_getElem h, List.getD_eq_getElem?_getD]

/-! ## `dict` -/

/-- A Python `dict`, as its items in insertion order. -/
abbrev PyDict (κ ν : Type) := List (κ × ν)

variable {κ ν : Type} [DecidableEq κ]

/-- `d[k] = v`: replace the value of a present key in place, or append the item. -/
def PyDict.insert (d : PyDict κ ν) (k : κ) (v : ν) : PyDict κ ν :=
  if d.any (·.1 == k) then d.map fun p => if p.1 = k then (k, v) else p else d ++ [(k, v)]

/-- `dict(pairs)`. -/
def PyDict.ofPairs (pairs : List (κ × ν)) : PyDict κ ν :=
  pairs.foldl (fun d p => d.insert p.1 p.2) []

/-- `d.get(k)`. -/
def PyDict.get? (d : PyDict κ ν) (k : κ) : Option ν := (d.find? (·.1 = k)).map (·.2)

/-- The value of the last pair with key `k`. -/
def lastValue (pairs : List (κ × ν)) (k : κ) : Option ν :=
  (pairs.reverse.find? (·.1 = k)).map (·.2)

theorem PyDict.get?_insert (d : PyDict κ ν) (k k' : κ) (v : ν) :
    (d.insert k' v).get? k = if k' = k then some v else d.get? k := by
  unfold PyDict.insert PyDict.get?
  split
  · next hany =>
    have hpred : (fun p : κ × ν => decide ((if p.1 = k' then (k', v) else p).1 = k)) =
        fun p => decide (p.1 = k) := by
      funext p; split <;> simp_all
    rw [List.find?_map, Function.comp_def, hpred, Option.map_map]
    split
    · next hk =>
      subst hk
      obtain ⟨q, hq, hqk⟩ := List.any_eq_true.mp hany
      have hs : (d.find? fun p => decide (p.1 = k')).isSome := by
        rw [List.find?_isSome]; exact ⟨q, hq, by simpa using hqk⟩
      obtain ⟨q', hq'⟩ := Option.isSome_iff_exists.mp hs
      have := List.find?_some hq'
      simp_all
    · next hk =>
      cases h : d.find? (fun p => decide (p.1 = k)) with
      | none => rfl
      | some q =>
        have hq := List.find?_some h
        simp only [decide_eq_true_eq] at hq
        simp [hq, Ne.symm hk]
  · next hany =>
    rw [List.find?_append]
    split
    · next hk =>
      subst hk
      have : d.find? (fun p => decide (p.1 = k')) = none := by
        rw [List.find?_eq_none]; intro q hq; simpa using fun h => hany (List.any_eq_true.mpr ⟨q, hq, by simpa using h⟩)
      simp [this]
    · next hk => cases d.find? (fun p => decide (p.1 = k)) <;> simp [hk]

theorem PyDict.get?_foldl (pairs : List (κ × ν)) (d : PyDict κ ν) (k : κ) :
    (pairs.foldl (fun d p => d.insert p.1 p.2) d).get? k = (lastValue pairs k).or (d.get? k) := by
  induction pairs generalizing d with
  | nil => simp [lastValue]
  | cons p ps ih =>
    rw [List.foldl_cons, ih, PyDict.get?_insert]
    simp only [lastValue, List.reverse_cons, List.find?_append, List.find?_singleton]
    cases (ps.reverse.find? fun q => decide (q.1 = k)) <;> split_ifs <;> simp_all

/-- **`dict(pairs)[k]` is the value of the last pair with key `k`.** -/
theorem PyDict.get?_ofPairs (pairs : List (κ × ν)) (k : κ) :
    (PyDict.ofPairs pairs).get? k = lastValue pairs k := by
  rw [PyDict.ofPairs, PyDict.get?_foldl]
  cases lastValue pairs k <;> rfl

end Emcache
