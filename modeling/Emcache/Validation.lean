import Emcache.Basic

/-!
# Argument checks

`client.py` validates arguments in three blocks that `_Client` and `_Pipeline` both
repeat, in the same order and with the same messages:

* the key loop `for key in keys: if cyemcache.is_key_valid(key) is False: raise
  ValueError("Key has invalid charcters")` (`checkKeys`);
* the opening of both `_storage_command`s: the cas bound, the flags bound, then the key
  (`checkStorageArgs`);
* the opening of both `_incr_decr_command`s: the sign of the delta, then the key
  (`checkIncrDecrArgs`).

The bounds are strict comparisons against `MAX_ALLOWED_FLAG_VALUE = 2**16` and
`MAX_ALLOWED_CAS_VALUE = 2**64`, so those two values themselves pass, and nothing bounds
flags or cas from below.  The cas check raises the *flags* message
(`checkStorageArgs_cas_error`).

`cyemcache.is_key_valid` is Cython and not in the repository; `isKeyValid` follows the
spec's key rule instead.  `checkStorageArgs_eq_ok_iff` and its siblings are what the
client and pipeline proofs cite: each says exactly which arguments pass.
-/

namespace Emcache

/-- Modelled from the spec: `cyemcache.is_key_valid` (Cython, absent from src/).  A key is
non-empty, at most 250 bytes long, and holds no ASCII whitespace or control byte: nothing
below `0x21` (space, tab, CR, LF and the other controls) and no DEL (`0x7F`), as the
spec's key rule says. -/
def isKeyValid (key : Bytes) : Bool :=
  0 < key.length && key.length ≤ 250 && key.all fun b => 0x21 ≤ b.toNat && b.toNat ≠ 0x7F

/-- `MAX_ALLOWED_FLAG_VALUE = 2**16`. -/
def maxAllowedFlagValue : Int := 2 ^ 16

/-- `MAX_ALLOWED_CAS_VALUE = 2**64`. -/
def maxAllowedCasValue : Int := 2 ^ 64

/-- `"Key has invalid charcters"`, spelled as in the source. -/
def keyInvalidMsg : String := "Key has invalid charcters"

/-- `f"flags can not be higher than {MAX_ALLOWED_FLAG_VALUE}"`. -/
def flagsTooHighMsg : String := "flags can not be higher than 65536"

/-- `"Incr or Decr by a positive value number expected"`. -/
def negativeDeltaMsg : String := "Incr or Decr by a positive value number expected"

/-- `"Emcache client is closed"`, the error of every call on a closed client. -/
def clientClosedMsg : String := "Emcache client is closed"

/-- The key loop: raise on the first key `is_key_valid` refuses. -/
def checkKeys (keys : List Bytes) : Except PyExc Unit :=
  if keys.all isKeyValid then .ok () else .error (.valueError keyInvalidMsg)

/-- The checks both `_storage_command`s open with. -/
def checkStorageArgs (key : Bytes) (flags : Int) (cas : Option Int) : Except PyExc Unit :=
  if cas.any (· > maxAllowedCasValue) then .error (.valueError flagsTooHighMsg)
  else if flags > maxAllowedFlagValue then .error (.valueError flagsTooHighMsg)
  else checkKeys [key]

/-- The checks both `_incr_decr_command`s open with. -/
def checkIncrDecrArgs (key : Bytes) (value : Int) : Except PyExc Unit :=
  if value < 0 then .error (.valueError negativeDeltaMsg) else checkKeys [key]

/-! ## Which arguments pass -/

theorem checkKeys_eq_ok_iff (keys : List Bytes) :
    checkKeys keys = .ok () ↔ ∀ k ∈ keys, isKeyValid k = true := by
  unfold checkKeys; split <;> simp_all

theorem checkKeys_error {keys : List Bytes} {e : PyExc} (h : checkKeys keys = .error e) :
    e = .valueError keyInvalidMsg := by
  unfold checkKeys at h; split at h <;> cases h; rfl

theorem checkStorageArgs_eq_ok_iff (key : Bytes) (flags : Int) (cas : Option Int) :
    checkStorageArgs key flags cas = .ok () ↔
      isKeyValid key = true ∧ flags ≤ maxAllowedFlagValue ∧ ∀ c ∈ cas, c ≤ maxAllowedCasValue := by
  cases cas with
  | none =>
    simp only [checkStorageArgs, Option.any, Bool.false_eq_true, if_false, Option.not_mem_none,
      false_implies, implies_true, and_true]
    split
    · simp only [reduceCtorEq, false_iff, not_and, not_le]; intro; omega
    · rw [checkKeys_eq_ok_iff]; simp only [List.mem_singleton, forall_eq]
      exact ⟨fun h => ⟨h, by omega⟩, fun h => h.1⟩
  | some c =>
    simp only [checkStorageArgs, Option.any, decide_eq_true_eq, Option.mem_def,
      Option.some.injEq, forall_eq']
    split
    · simp only [reduceCtorEq, false_iff, not_and, not_le]; intro _ _; omega
    split
    · simp only [reduceCtorEq, false_iff, not_and, not_le]; intro; omega
    · rw [checkKeys_eq_ok_iff]; simp only [List.mem_singleton, forall_eq]
      exact ⟨fun h => ⟨h, by omega, by omega⟩, fun h => h.1⟩

theorem checkStorageArgs_error {key : Bytes} {flags : Int} {cas : Option Int} {e : PyExc}
    (h : checkStorageArgs key flags cas = .error e) : ∃ msg, e = .valueError msg := by
  unfold checkStorageArgs at h
  split at h
  · cases h; exact ⟨_, rfl⟩
  split at h
  · cases h; exact ⟨_, rfl⟩
  exact ⟨_, checkKeys_error h⟩

/-- The cas bound raises the flags message. -/
theorem checkStorageArgs_cas_error (key : Bytes) (flags cas : Int)
    (h : maxAllowedCasValue < cas) :
    checkStorageArgs key flags (some cas) = .error (.valueError flagsTooHighMsg) := by
  simp [checkStorageArgs, h]

theorem checkIncrDecrArgs_eq_ok_iff (key : Bytes) (value : Int) :
    checkIncrDecrArgs key value = .ok () ↔ isKeyValid key = true ∧ 0 ≤ value := by
  unfold checkIncrDecrArgs
  split
  · simp only [reduceCtorEq, false_iff, not_and, not_le]; intro; omega
  · rw [checkKeys_eq_ok_iff]; simp only [List.mem_singleton, forall_eq]
    exact ⟨fun h => ⟨h, by omega⟩, fun h => h.1⟩

theorem checkIncrDecrArgs_error {key : Bytes} {value : Int} {e : PyExc}
    (h : checkIncrDecrArgs key value = .error e) : ∃ msg, e = .valueError msg := by
  unfold checkIncrDecrArgs at h
  split at h
  · cases h; exact ⟨_, rfl⟩
  exact ⟨_, checkKeys_error h⟩

/-! ## What a valid key looks like on the wire -/

theorem isKeyValid_iff (key : Bytes) :
    isKeyValid key = true ↔
      key ≠ [] ∧ key.length ≤ 250 ∧ ∀ b ∈ key, 0x21 ≤ b.toNat ∧ b.toNat ≠ 0x7F := by
  simp [isKeyValid, List.length_pos, and_assoc]

/-- Every byte of a valid key is at least `0x21`: no space, CR or LF. -/
theorem le_of_mem_valid_key {key : Bytes} (hk : isKeyValid key = true) {b : UInt8}
    (hb : b ∈ key) : 0x21 ≤ b.toNat :=
  (((isKeyValid_iff key).mp hk).2.2 b hb).1

end Emcache
