import Mathlib.Data.List.Basic
import Mathlib.Tactic.IntervalCases
import Mathlib.Data.Nat.Digits

/-!
# Bytes, numerals and the exceptions the client raises

The client builds every request by `%`-formatting byte strings, and it reads numbers
back with Python's `int`.  This file fixes the vocabulary the other modules share.

* `Bytes` is a Python `bytes` value and `Str` a Python `str`, both as lists.
* `asciiInt z` is `b"%a" % z` for an `int`: `ascii(z)`, the decimal numeral with a
  leading `-` for a negative number (`numeral`), written with core's `Nat.toDigits` so
  that concrete frames evaluate by `decide`.  Like CPython from 3.11 on, it raises
  `ValueError` for an `int` of more than `intMaxStrDigits` (4300) decimal digits, the
  default of `sys.int_info.default_max_str_digits`.
* `parseNat` and `parseInt` read a decimal token back.  They are not code of the
  client: the request grammar of `Pipeline.Grammar` and the `int` model of `PyLib` use
  them.  `parseNat_decimal` and `parseInt_numeral` are the round trips every framing
  proof ends in.
* `PyExc` lists the exceptions any modelled path can raise: the Python built-ins the
  code reaches (`ValueError`, `RuntimeError`, the Unicode errors, the cancellation
  and timeout errors of `asyncio`) and the client's own taxonomy of `client_errors.py`.
-/

namespace Emcache

/-- A Python `bytes` value. -/
abbrev Bytes := List UInt8

/-- A Python `str` value. -/
abbrev Str := List Char

/-- The bytes of an ASCII literal, `b"get"` for `ascii "get"`. -/
def ascii (s : String) : Bytes := s.toList.map fun c => c.toNat.toUInt8

/-- The text of an ASCII literal, `"STORED"` for `text "STORED"`. -/
def text (s : String) : Str := s.toList

/-- `b"\r\n"`. -/
def crlf : Bytes := [13, 10]

/-- `b" ".join(parts)`. -/
def joinSpace (parts : List Bytes) : Bytes := [32].intercalate parts

theorem intercalate_cons_cons {α : Type} (sep x y : List α) (ys : List (List α)) :
    sep.intercalate (x :: y :: ys) = x ++ sep ++ sep.intercalate (y :: ys) := by
  simp [List.intercalate, List.intersperse_cons_cons]

/-! ## Exceptions -/

/-- The exceptions the modelled paths raise.  The client's error classes carry the reply
they were built from: their message is `f"Command finished with error, response returned
{result}"` around it. -/
inductive PyExc where
  /-- `ValueError(msg)`. -/
  | valueError (msg : String)
  /-- `RuntimeError(msg)`. -/
  | runtimeError (msg : String)
  /-- `UnicodeDecodeError`, from `bytes.decode()` on bytes that are not UTF-8. -/
  | unicodeDecodeError
  /-- `UnicodeEncodeError`, from `str.encode()` on a lone surrogate. -/
  | unicodeEncodeError
  /-- `TypeError`, from `int(None)`. -/
  | typeError
  /-- `IndexError`, from `values[i]` past the end of the list. -/
  | indexError
  /-- `CommandError(f"... {result}")`. -/
  | commandError (result : Bytes)
  /-- `StorageCommandError(f"... {result}")`. -/
  | storageCommandError (result : Bytes)
  /-- `NotStoredStorageCommandError()`. -/
  | notStoredStorageCommandError
  /-- `NotFoundCommandError()`. -/
  | notFoundCommandError
  /-- `asyncio.CancelledError`, a `BaseException` and not an `Exception`. -/
  | cancelledError
  /-- `asyncio.TimeoutError`, what the operation timeout raises. -/
  | timeoutError
  /-- An I/O failure of a connection, such as `ConnectionResetError`. -/
  | connectionError
  deriving DecidableEq, Repr

/-- Whether `except Exception:` catches the exception: every one but the cancellation. -/
def PyExc.isException : PyExc → Bool
  | .cancelledError => false
  | _ => true

/-! ## `Except` -/

theorem ok_bind {ε α β : Type} (a : α) (f : α → Except ε β) : (Except.ok a >>= f) = f a := rfl

theorem error_bind {ε α β : Type} (e : ε) (f : α → Except ε β) :
    (Except.error e >>= f) = .error e := rfl

theorem Except.pure_eq_ok {ε α : Type} (a : α) : (pure a : Except ε α) = .ok a := rfl

theorem Except.pure_eq_error_iff {ε α : Type} (a : α) (e : ε) :
    (pure a : Except ε α) = .error e ↔ False :=
  ⟨fun h => (by cases h), False.elim⟩

theorem Except.map_eq_error_iff {ε α β : Type} {f : α → β} {x : Except ε α} {e : ε} :
    Except.map f x = .error e ↔ x = .error e := by
  cases x <;> simp [Except.map]

theorem Except.fmap_eq_error_iff {ε α β : Type} {f : α → β} {x : Except ε α} {e : ε} :
    f <$> x = .error e ↔ x = .error e :=
  Except.map_eq_error_iff

/-- A check that does not pass raises. -/
theorem Except.exists_error_iff {ε : Type} {x : Except ε Unit} :
    (∃ e, x = .error e) ↔ x ≠ .ok () := by
  cases x <;> simp

/-- A check followed by more work raises what the check raises or, once it passes, what
the rest raises. -/
theorem check_bind_eq_error_iff {ε β : Type} (x : Except ε Unit) (y : Unit → Except ε β)
    (e : ε) : (x >>= y) = .error e ↔ x = .error e ∨ (x = .ok () ∧ y () = .error e) := by
  rcases x with e' | ⟨⟨⟩⟩ <;> simp [error_bind, ok_bind]

/-! ## Numerals -/

/-- The decimal numeral of a natural number, as `ascii(n)` prints it. -/
def decimal (n : Nat) : Bytes := (Nat.toDigits 10 n).map fun c => c.toNat.toUInt8

/-- The text `ascii(z)` gives an `int` `z`: its numeral, with a leading `-` when negative. -/
def numeral : Int → Bytes
  | .ofNat n => decimal n
  | .negSucc n => 45 :: decimal (n + 1)

/-- `sys.int_info.default_max_str_digits`: CPython refuses to convert an `int` of more
decimal digits to text or back. -/
def intMaxStrDigits : Nat := 4300

/-- Whether an `int` converts to text: at most `intMaxStrDigits` digits, the sign not
counted (CPython's `strlen_nosign > max_str_digits` test). -/
def withinStrDigits (z : Int) : Bool := (decimal z.natAbs).length ≤ intMaxStrDigits

/-- The message of the `ValueError` for an `int` too long to print. -/
def intToStrLimitMsg : String :=
  "Exceeds the limit (4300 digits) for integer string conversion; use sys.set_int_max_str_digits() to increase the limit"

/-- `b"%a" % z` for an `int` `z`. -/
def asciiInt (z : Int) : Except PyExc Bytes :=
  if withinStrDigits z then .ok (numeral z) else .error (.valueError intToStrLimitMsg)

/-- The value of one decimal digit byte. -/
def digitByte? (b : UInt8) : Option Nat :=
  if 48 ≤ b.toNat ∧ b.toNat ≤ 57 then some (b.toNat - 48) else none

/-- A non-empty run of decimal digits, read as a natural number. -/
def parseNat (bs : Bytes) : Option Nat :=
  if bs = [] then none
  else bs.foldlM (fun acc b => (fun d => 10 * acc + d) <$> digitByte? b) 0

/-- A decimal numeral with an optional leading `-`. -/
def parseInt : Bytes → Option Int
  | 45 :: ds => (fun n => -(n : Int)) <$> parseNat ds
  | ds => (fun n => (n : Int)) <$> parseNat ds

theorem digitChar_toUInt8 {d : Nat} (h : d < 10) :
    (Nat.digitChar d).toNat.toUInt8 = (48 + d).toUInt8 := by
  interval_cases d <;> rfl

theorem digitByte?_digit {d : Nat} (h : d < 10) : digitByte? (48 + d).toUInt8 = some d := by
  interval_cases d <;> rfl

theorem toDigitsCore_append (fuel n : Nat) (ds : List Char) :
    Nat.toDigitsCore 10 fuel n ds = Nat.toDigitsCore 10 fuel n [] ++ ds := by
  induction fuel generalizing n ds with
  | zero => rfl
  | succ f ih =>
    simp only [Nat.toDigitsCore]
    split
    · rfl
    · rw [ih, ih _ [_]]; simp

/-- The numeral printer emits the digits of `n`, most significant first. -/
theorem toDigitsCore_eq_digits (fuel n : Nat) (h : n < fuel) :
    ∃ l : List Nat, l ≠ [] ∧ (∀ d ∈ l, d < 10) ∧
      Nat.toDigitsCore 10 fuel n [] = l.map Nat.digitChar ∧
      l.foldl (fun acc d => 10 * acc + d) 0 = n := by
  induction fuel generalizing n with
  | zero => omega
  | succ f ih =>
    simp only [Nat.toDigitsCore]
    split
    · exact ⟨[n % 10], by simp, by simp [Nat.mod_lt], rfl, by simp; omega⟩
    · obtain ⟨l, -, hl, hcore, hval⟩ := ih (n / 10) (by omega)
      refine ⟨l ++ [n % 10], by simp, ?_, ?_, ?_⟩
      · simp only [List.mem_append, List.mem_singleton]
        rintro d (hd | rfl)
        exacts [hl d hd, Nat.mod_lt n (by norm_num)]
      · rw [toDigitsCore_append, hcore, List.map_append]; rfl
      · rw [List.foldl_append, hval]; simp; omega

theorem foldlM_digits (l : List Nat) (a : Nat) (h : ∀ d ∈ l, d < 10) :
    (l.map fun d => (48 + d).toUInt8).foldlM
        (fun acc b => (fun d => 10 * acc + d) <$> digitByte? b) a
      = some (l.foldl (fun acc d => 10 * acc + d) a) := by
  induction l generalizing a with
  | nil => rfl
  | cons d l ih =>
    simp only [List.map_cons, List.foldlM_cons, List.foldl_cons]
    rw [digitByte?_digit (h d (by simp))]
    exact ih _ fun e he => h e (by simp [he])

/-- Every byte of a numeral is a digit. -/
theorem decimal_digits (n : Nat) : ∃ l : List Nat, l ≠ [] ∧ (∀ d ∈ l, d < 10) ∧
    decimal n = l.map (fun d => (48 + d).toUInt8) ∧
      l.foldl (fun acc d => 10 * acc + d) 0 = n := by
  obtain ⟨l, hne, hl, hcore, hval⟩ := toDigitsCore_eq_digits (n + 1) n (by omega)
  refine ⟨l, hne, hl, ?_, hval⟩
  rw [decimal, Nat.toDigits, hcore, List.map_map]
  exact List.map_congr_left fun d hd => digitChar_toUInt8 (hl d hd)

/-- **Reading a printed numeral gives the number back.** -/
theorem parseNat_decimal (n : Nat) : parseNat (decimal n) = some n := by
  obtain ⟨l, hne, hl, hdec, hval⟩ := decimal_digits n
  rw [parseNat, if_neg (by simpa [hdec] using hne), hdec, foldlM_digits l 0 hl, hval]

/-- A digit byte is never a space, a sign, CR, LF or below `0x21`. -/
theorem mem_decimal {n : Nat} {b : UInt8} (h : b ∈ decimal n) :
    48 ≤ b.toNat ∧ b.toNat ≤ 57 := by
  obtain ⟨l, -, hl, hdec, -⟩ := decimal_digits n
  rw [hdec, List.mem_map] at h
  obtain ⟨d, hd, rfl⟩ := h
  have := hl d hd
  interval_cases d <;> decide

theorem decimal_ne_nil (n : Nat) : decimal n ≠ [] := by
  obtain ⟨l, hne, -, hdec, -⟩ := decimal_digits n
  simpa [hdec] using hne

theorem mem_numeral {z : Int} {b : UInt8} (h : b ∈ numeral z) :
    b = 45 ∨ (48 ≤ b.toNat ∧ b.toNat ≤ 57) := by
  cases z with
  | ofNat n => exact .inr (mem_decimal h)
  | negSucc n =>
    rcases List.mem_cons.mp h with rfl | h
    · exact .inl rfl
    · exact .inr (mem_decimal h)

theorem numeral_ne_nil (z : Int) : numeral z ≠ [] := by
  cases z <;> simp [numeral, decimal_ne_nil]

@[simp] theorem numeral_ofNat (n : Nat) : numeral (n : Int) = decimal n := rfl

/-- **The signed round trip**: `int(ascii(z)) == z` on the grammar's side. -/
theorem parseInt_numeral (z : Int) : parseInt (numeral z) = some z := by
  cases z with
  | ofNat n =>
    cases h : decimal n with
    | nil => exact absurd h (decimal_ne_nil n)
    | cons b bs =>
      have hb : b ≠ 45 := fun hb => by
        have := mem_decimal (show b ∈ decimal n by rw [h]; exact List.mem_cons_self b bs)
        subst hb; exact absurd this (by decide)
      have hp := parseNat_decimal n
      rw [h] at hp
      simp only [numeral, h, parseInt]
      split
      · exact absurd ‹_› (by simp [hb])
      · simp [hp]
  | negSucc n =>
    simp only [numeral, parseInt, parseNat_decimal]
    rfl

/-- A non-negative `int` prints as the numeral of its value. -/
theorem numeral_of_nonneg {z : Int} (h : 0 ≤ z) : numeral z = decimal z.toNat := by
  obtain ⟨n, rfl⟩ := Int.eq_ofNat_of_zero_le h
  rfl

/-- An `int` below `10 ^ k`, for `k` up to the limit, prints. -/
theorem withinStrDigits_of_lt {z : Int} {k : Nat} (hk0 : 0 < k) (hk : k ≤ intMaxStrDigits)
    (h : z.natAbs < 10 ^ k) : withinStrDigits z = true := by
  have := Nat.toDigitsCore_length 10 (by norm_num) (z.natAbs + 1) z.natAbs k h hk0
  simp only [withinStrDigits, decimal, Nat.toDigits, List.length_map, decide_eq_true_eq]
  omega

theorem asciiInt_of_within {z : Int} (h : withinStrDigits z = true) :
    asciiInt z = .ok (numeral z) := if_pos h

theorem asciiInt_of_not_within {z : Int} (h : withinStrDigits z = false) :
    asciiInt z = .error (.valueError intToStrLimitMsg) := if_neg (by simp [h])

theorem asciiInt_eq_error_iff (z : Int) (e : PyExc) :
    asciiInt z = .error e ↔ withinStrDigits z = false ∧ e = .valueError intToStrLimitMsg := by
  cases h : withinStrDigits z
  · simp [asciiInt_of_not_within h, eq_comm]
  · simp [asciiInt_of_within h]

/-- Formatting an `int` and going on raises the limit's `ValueError` or what the rest
raises on the numeral. -/
theorem asciiInt_bind_eq_error_iff {β : Type} (z : Int) (f : Bytes → Except PyExc β)
    (e : PyExc) :
    (asciiInt z >>= f) = .error e ↔
      (withinStrDigits z = false ∧ e = .valueError intToStrLimitMsg) ∨
      (withinStrDigits z = true ∧ f (numeral z) = .error e) := by
  cases h : withinStrDigits z
  · simp [asciiInt_of_not_within h, error_bind, eq_comm]
  · simp [asciiInt_of_within h, ok_bind]

end Emcache
