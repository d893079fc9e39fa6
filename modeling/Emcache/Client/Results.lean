import Emcache.Client.Facade

/-!
# What the client returns on the replies it expects

`Facade` classifies every reply; this file follows the replies a server sends when a
command succeeds through the code after the `await`, to what the method returns.

* A counter reply is the decimal numeral of the new value, and `int(result)` reads it back
  (`pyInt_decimal`) when it has at most 4300 digits, so `increment` and `decrement`
  return the value.
* A version reply is `VERSION <text>`; for ASCII text `version` returns the text.
* A retrieval reply lists keys, values, flags and cas values index by index.  The loop
  of `get_many`, `gets_many`, `gat_many` and `gats_many`

  > for keys, values, flags, cas, client_error in nodes_results:
  >     if client_error:
  >         raise CommandError(...)
  >     for idx in range(len(keys)):
  >         results[keys[idx]] = Item(values[idx], flags[idx], cas[idx])

  inserts the items of every node's reply in turn, so on complete replies it returns
  `dict` of all of them, in order, a key that comes back twice taking its last item.
-/

namespace Emcache

/-! ## Counters and versions -/

theorem dropWhile_of_forall {p : UInt8 → Bool} {l : Bytes} (h : ∀ b ∈ l, p b = false) :
    l.dropWhile p = l := by
  cases l with
  | nil => rfl
  | cons b l => simp [List.dropWhile_cons, h b (List.mem_cons_self b l)]

theorem pyStrip_of_forall {s : Bytes} (h : ∀ b ∈ s, isPySpace b = false) : pyStrip s = s := by
  rw [pyStrip, dropWhile_of_forall h,
    dropWhile_of_forall fun b hb => h b (List.mem_reverse.mp hb), List.reverse_reverse]

/-- Digits without `_` are one group: `int` reads them as a plain numeral. -/
theorem parseUnderscored_of_not_mem {ds : Bytes} (hne : ds ≠ []) (h : (95 : UInt8) ∉ ds) :
    parseUnderscored ds = parseNat ds := by
  have hs : ds.splitOn 95 = [ds] :=
    List.splitOnP_eq_single _ ds fun x hx hx95 => h (beq_iff_eq.mp hx95 ▸ hx)
  simp [parseUnderscored, hs, hne]

/-- **`int()` reads the numeral of `n` back as `n`**, for `n` within the digit limit. -/
theorem pyInt_decimal {n : Nat} (hn : withinStrDigits n = true) : pyInt (decimal n) = .ok n := by
  have hsp : ∀ b ∈ decimal n, isPySpace b = false := fun b hb => by
    have := mem_decimal hb; simp [isPySpace]; omega
  have h95 : (95 : UInt8) ∉ decimal n := fun h => absurd (mem_decimal h) (by decide)
  obtain ⟨b, t, ht⟩ := List.exists_cons_of_ne_nil (decimal_ne_nil n)
  have hb := mem_decimal (ht ▸ List.mem_cons_self b t)
  have h45 : b ≠ 45 := fun h => by subst h; exact absurd hb (by decide)
  have h43 : b ≠ 43 := fun h => by subst h; exact absurd hb (by decide)
  have hu : parseUnderscored (b :: t) = some n := by
    rw [← ht, parseUnderscored_of_not_mem (decimal_ne_nil n) h95, parseNat_decimal]
  rw [pyInt_of_length_le (by simpa [withinStrDigits] using hn), pyIntValue?,
    pyStrip_of_forall hsp, ht]
  simp only [if_neg h45, if_neg h43, hu]
  rfl

/-- A numeral is never `NOT_FOUND`, whose first byte is a letter. -/
theorem decimal_ne_NOT_FOUND (n : Nat) : decimal n ≠ NOT_FOUND := fun h =>
  absurd (mem_decimal (show (78 : UInt8) ∈ decimal n by rw [h]; decide)) (by decide)

theorem incrDecrResult_decimal {n : Nat} (hn : withinStrDigits n = true) :
    incrDecrResult false (decimal n) = .ok (some n) := by
  simp only [incrDecrResult, Bool.false_eq_true, if_false, if_neg (decimal_ne_NOT_FOUND n),
    pyInt_decimal hn]
  rfl

theorem versionResult_ascii {t : Bytes} (ht : ∀ b ∈ t, b.toNat < 0x80) :
    versionResult (ascii "VERSION " ++ t) = .ok (t.map fun b => Char.ofNat b.toNat) := by
  rw [versionResult_versionLine, utf8Decode_ascii ht]
  rfl

/-- **The expected counter and version replies give back their values**: the numeral of
`n`, of at most 4300 digits, makes `increment` and `decrement` return `n`, and
`VERSION <text>` with ASCII text makes `version` return the text. -/
theorem success_replies_return_values (c : Client) (key : Bytes) (value : Int)
    (address : Address) (n : Nat) (hn : withinStrDigits n = true) {t : Bytes}
    (ht : ∀ b ∈ t, b.toNat < 0x80) :
    (c.increment key value false).finish (decimal n) = .ok (some n) ∧
    (c.decrement key value false).finish (decimal n) = .ok (some n) ∧
    (c.version address).finish (ascii "VERSION " ++ t) =
      .ok (t.map fun b => Char.ofNat b.toNat) :=
  ⟨incrDecrResult_decimal hn, incrDecrResult_decimal hn, versionResult_ascii ht⟩

theorem success_replies_return_values_memcached :
    withinStrDigits (42 : Nat) = true ∧
    (Client.increment ⟨false, false⟩ (ascii "k") 1 false).finish (decimal 42) =
      .ok (some 42) ∧
    (Client.decrement ⟨false, false⟩ (ascii "k") 1 false).finish (decimal 42) =
      .ok (some 42) ∧
    (Client.version ⟨false, false⟩ ⟨text "localhost", 11211⟩).finish
        (ascii "VERSION " ++ ascii "1.6.21") =
      .ok ((ascii "1.6.21").map fun b => Char.ofNat b.toNat) :=
  ⟨by decide, success_replies_return_values ⟨false, false⟩ (ascii "k") 1
    ⟨text "localhost", 11211⟩ 42 (by decide) (by decide)⟩

/-! ## The `dict` of a fan-out -/

/-- The item the loop inserts at index `i` of a node's reply. -/
def FetchResult.itemAt (withCas returnFlags : Bool) (r : FetchResult) (i : Nat) :
    Bytes × Item :=
  (r.keys.getD i [], ⟨r.values.getD i [], if returnFlags then some (r.flags.getD i 0) else none,
    if withCas then some (r.cas.getD i 0) else none⟩)

/-- The items of a node's reply, index by index. -/
def FetchResult.items (withCas returnFlags : Bool) (r : FetchResult) : List (Bytes × Item) :=
  (List.range r.keys.length).map (r.itemAt withCas returnFlags)

/-- A reply the loop reads without raising: no client error, and a value, and a flags or
cas value where they are read, for every key. -/
def FetchResult.Complete (withCas returnFlags : Bool) (r : FetchResult) : Prop :=
  r.clientError = [] ∧ r.keys.length ≤ r.values.length ∧
    (returnFlags = true → r.keys.length ≤ r.flags.length) ∧
    (withCas = true → r.keys.length ≤ r.cas.length)

instance (withCas returnFlags : Bool) (r : FetchResult) :
    Decidable (r.Complete withCas returnFlags) :=
  inferInstanceAs (Decidable (_ ∧ _))

/-- `d[k] = v` for each pair, in order. -/
def insertAll (d : PyDict Bytes Item) (ps : List (Bytes × Item)) : PyDict Bytes Item :=
  ps.foldl (fun d p => d.insert p.1 p.2) d

variable {withCas returnFlags : Bool}

theorem insertItem_of_lt {r : FetchResult} (hr : r.Complete withCas returnFlags) {i : Nat}
    (hi : i < r.keys.length) (d : PyDict Bytes Item) :
    insertItem withCas returnFlags r d i =
      .ok (d.insert (r.itemAt withCas returnFlags i).1 (r.itemAt withCas returnFlags i).2) := by
  obtain ⟨-, hv, hf, hc⟩ := hr
  have hfl (h : returnFlags = true) : pyIndex r.flags i = .ok (r.flags.getD i 0) :=
    pyIndex_of_lt (Nat.lt_of_lt_of_le hi (hf h)) 0
  have hcl (h : withCas = true) : pyIndex r.cas i = .ok (r.cas.getD i 0) :=
    pyIndex_of_lt (Nat.lt_of_lt_of_le hi (hc h)) 0
  cases returnFlags <;> cases withCas <;>
    simp [insertItem, FetchResult.itemAt, pyIndex_of_lt (Nat.lt_of_lt_of_le hi hv) [],
      pyIndex_of_lt hi [], hfl, hcl] <;> rfl

/-- The inner loop, over any indices below the number of keys. -/
theorem foldlM_insertItem {r : FetchResult} (hr : r.Complete withCas returnFlags) :
    ∀ (is : List Nat), (∀ i ∈ is, i < r.keys.length) → ∀ d : PyDict Bytes Item,
      is.foldlM (insertItem withCas returnFlags r) d =
        .ok (insertAll d (is.map (r.itemAt withCas returnFlags)))
  | [], _, d => rfl
  | i :: is, h, d => by
    rw [List.foldlM_cons, insertItem_of_lt hr (h i (List.mem_cons_self i is))]
    exact foldlM_insertItem hr is (fun j hj => h j (List.mem_cons_of_mem i hj)) _

/-- One pass of the outer loop on a complete reply inserts its items. -/
theorem insertNodeResult_of_complete {r : FetchResult} (hr : r.Complete withCas returnFlags)
    (d : PyDict Bytes Item) :
    insertNodeResult withCas returnFlags d r =
      .ok (insertAll d (r.items withCas returnFlags)) := by
  rw [insertNodeResult, if_neg (by simp [hr.1])]
  exact foldlM_insertItem hr _ (fun i hi => List.mem_range.mp hi) d

/-- **The fan-out's `dict` is that of every node's items, in order**: on replies that are
all complete, `get_many`, `gets_many`, `gat_many` and `gats_many` (`withCas` for the
`s` forms) return `dict` of the items of the first node's reply, then the second's, and so
on, so a key that comes back twice takes its last item. -/
theorem itemsResult_of_complete (rs : List FetchResult)
    (h : ∀ r ∈ rs, r.Complete withCas returnFlags) :
    itemsResult withCas returnFlags rs =
      .ok (PyDict.ofPairs (rs.flatMap (FetchResult.items withCas returnFlags))) := by
  suffices ∀ d, rs.foldlM (insertNodeResult withCas returnFlags) d =
      .ok (insertAll d (rs.flatMap (FetchResult.items withCas returnFlags))) from this []
  induction rs with
  | nil => intro d; rfl
  | cons r rs ih =>
    intro d
    rw [List.foldlM_cons, insertNodeResult_of_complete (h r (List.mem_cons_self r rs))]
    refine (ih (fun r' hr' => h r' (List.mem_cons_of_mem r hr')) _).trans ?_
    rw [List.flatMap_cons, insertAll, insertAll, insertAll, List.foldl_append]

end Emcache
