import Emcache.PyLib
import Emcache.Client.Connection

/-!
# `re.finditer(r"STAT (.+) (.+)\r\n", ...)`: decoding a stats block

`_Client.stats` and the stats branch of `_Pipeline.execute` turn a stats block into a
`dict` the same way:

> return dict(s.groups() for s in re.finditer(r"STAT (.+) (.+)\r\n", result.decode()))

`re` matches by backtracking.  At a position, `STAT ` must match literally; the first
`(.+)` then takes the longest run of characters other than `\n` it can and gives back one
character at a time until the rest of the pattern matches, and for each of its lengths
the second `(.+)` does the same.  `dotPlus` lists the ways `(.+)` can match in that
order, so `statMatch` is the first success of the matcher's own search.  `finditer`
tries each position from the left, and after a match continues where it ended
(`statFinditer`, with the length of the text as fuel: a match consumes at least one
character).

## Results

* `statMatch_sound`: a match is a whole line `STAT <g1> <g2>\r\n` at the front.
* `statMatch_statLine`: the line of a name and a value matches with the name and the
  value as its groups, provided the value holds no space.  The first group is greedy, so
  it runs to the last space that still leaves a non-empty value: a value with a space is
  split there.
* `statFinditer_statBlock` and `statsDict_statBlock`: over a block of such lines the
  matches are the lines' pairs, and the `dict` maps each name to its last value.
-/

namespace Emcache
namespace Stats

/-! ## The matcher -/

/-- The ways `(.+)` can match at the front of `s`, as group and rest, in the order the
backtracking matcher tries them: `.` is any character but `\n`, and the greedy repeat
tries the longest run first. -/
def dotPlus : Str → List (Str × Str)
  | [] => []
  | c :: cs =>
    if c = '\n' then [] else (dotPlus cs).map (fun m => (c :: m.1, m.2)) ++ [([c], cs)]

/-- The pattern after the second group: `\r\n`. -/
def crlfTail (value : Str) : Str → Option (Str × Str)
  | '\r' :: '\n' :: rest => some (value, rest)
  | _ => none

/-- The pattern after the first group: ` (.+)\r\n`. -/
def valueTail : Str → Option (Str × Str)
  | c :: s => if c = ' ' then (dotPlus s).findSome? fun m => crlfTail m.1 m.2 else none
  | [] => none

/-- `re.match(r"STAT (.+) (.+)\r\n", s)`: the match's `groups()` and the text after it. -/
def statMatch : Str → Option ((Str × Str) × Str)
  | 'S' :: 'T' :: 'A' :: 'T' :: ' ' :: s =>
    (dotPlus s).findSome? fun m => (valueTail m.2).map fun v => ((m.1, v.1), v.2)
  | _ => none

/-- `re.finditer` from the front of `s`, each match's `groups()`. -/
def statFinditerAux : Nat → Str → List (Str × Str)
  | 0, _ => []
  | _, [] => []
  | fuel + 1, c :: cs =>
    match statMatch (c :: cs) with
    | some (groups, rest) => groups :: statFinditerAux fuel rest
    | none => statFinditerAux fuel cs

/-- `re.finditer(r"STAT (.+) (.+)\r\n", s)`, each match's `groups()`. -/
def statFinditer (s : Str) : List (Str × Str) := statFinditerAux s.length s

/-- `dict(s.groups() for s in re.finditer(r"STAT (.+) (.+)\r\n", s))`. -/
def statsDict (s : Str) : PyDict Str Str := PyDict.ofPairs (statFinditer s)

/-- The code of `_Client.stats` after the connection's reply:

> if not result or not result.endswith(END):
>     raise CommandError(f"Command finished with error, response returned {result}")
> return dict(s.groups() for s in re.finditer(r"STAT (.+) (.+)\r\n", result.decode())) -/
def statsResult (result : Bytes) : Except PyExc (PyDict Str Str) :=
  if result = [] ∨ ¬ END <:+ result then .error (.commandError result)
  else match utf8Decode result with
    | none => .error .unicodeDecodeError
    | some s => .ok (statsDict s)

/-! ## The stats block -/

/-- The line `STAT <name> <value>\r\n`. -/
def statLine (p : Str × Str) : Str := text "STAT " ++ p.1 ++ ' ' :: (p.2 ++ text "\r\n")

/-- The block the server sends for the pairs: their lines, then `END\r\n`. -/
def statBlock (pairs : List (Str × Str)) : Str := (pairs.map statLine).flatten ++ text "END\r\n"

/-- `s.encode()` of ASCII text. -/
def encodeAscii (s : Str) : Bytes := s.map fun c => c.toNat.toUInt8

/-- A name and a value that come back whole through the pattern: both non-empty and on
one line, and no space in the value, so the line's last space is the one between them. -/
structure Splittable (p : Str × Str) : Prop where
  name_ne_nil : p.1 ≠ []
  name_one_line : '\n' ∉ p.1
  value_ne_nil : p.2 ≠ []
  value_one_line : '\n' ∉ p.2
  value_no_space : ' ' ∉ p.2

/-! ## `(.+)` -/

theorem mem_dotPlus {s : Str} {m : Str × Str} (h : m ∈ dotPlus s) :
    m.1 ≠ [] ∧ m.1 ++ m.2 = s := by
  induction s generalizing m with
  | nil => simp [dotPlus] at h
  | cons c cs ih =>
    simp only [dotPlus] at h
    split at h
    · simp at h
    · simp only [List.mem_append, List.mem_map, List.mem_singleton] at h
      rcases h with ⟨m', hm', rfl⟩ | rfl
      · simp [(ih hm').2]
      · simp

/-- `(.+)` over a run `u` with no newline: first every way of matching past `u`, then
the ways of matching inside it. -/
theorem dotPlus_append {u : Str} (h : '\n' ∉ u) (w : Str) :
    dotPlus (u ++ w) = (dotPlus w).map (fun m => (u ++ m.1, m.2)) ++
      (dotPlus u).map fun m => (m.1, m.2 ++ w) := by
  induction u with
  | nil => simp [dotPlus]
  | cons c u ih =>
    have hc : c ≠ '\n' := fun hc => h (hc ▸ List.mem_cons_self c u)
    simp [dotPlus, hc, ih fun hu => h (List.mem_cons_of_mem c hu), Function.comp_def]

/-- The greedy first try: the whole run. -/
theorem dotPlus_eq_cons {v : Str} (hv : v ≠ []) (h : '\n' ∉ v) :
    ∃ l, dotPlus v = (v, []) :: l := by
  induction v with
  | nil => exact absurd rfl hv
  | cons c v ih =>
    have hc : c ≠ '\n' := fun hc => h (hc ▸ List.mem_cons_self c v)
    rcases v with _ | ⟨d, v⟩
    · exact ⟨[], by simp [dotPlus, hc]⟩
    · obtain ⟨l, hl⟩ := ih (List.cons_ne_nil d v) fun hv => h (List.mem_cons_of_mem c hv)
      exact ⟨_, by rw [dotPlus, if_neg hc, hl]; rfl⟩

@[simp] theorem dotPlus_newline (s : Str) : dotPlus ('\n' :: s) = [] := by simp [dotPlus]

/-! ## One line -/

@[simp] theorem valueTail_newline (rest : Str) : valueTail ('\n' :: rest) = none := rfl

theorem valueTail_of_ne {c : Char} (hc : c ≠ ' ') (s : Str) : valueTail (c :: s) = none := by
  simp [valueTail, hc]

/-- The second group runs to the `\r` before the line's `\n`. -/
theorem valueTail_line {v : Str} (hv : v ≠ []) (h : '\n' ∉ v) (rest : Str) :
    valueTail (' ' :: (v ++ '\r' :: '\n' :: rest)) = some (v, rest) := by
  obtain ⟨l, hl⟩ := dotPlus_eq_cons hv h
  simp [valueTail, dotPlus_append h, dotPlus, hl, crlfTail, List.findSome?_append]

theorem crlfTail_eq_some {g s : Str} {v : Str × Str} (h : crlfTail g s = some v) :
    s = '\r' :: '\n' :: v.2 ∧ v.1 = g := by
  unfold crlfTail at h
  split at h
  · cases h; exact ⟨rfl, rfl⟩
  · cases h

theorem valueTail_eq_some {s : Str} {v : Str × Str} (h : valueTail s = some v) :
    s = ' ' :: (v.1 ++ '\r' :: '\n' :: v.2) := by
  cases s with
  | nil => cases h
  | cons c t =>
    rw [valueTail] at h
    split_ifs at h with hc
    obtain ⟨m, hm, hv⟩ := List.exists_of_findSome?_eq_some h
    obtain ⟨h2, h1⟩ := crlfTail_eq_some hv
    rw [hc, ← (mem_dotPlus hm).2, h2, h1]

/-- **A match is a whole line at the front**: `STAT <g1> <g2>\r\n` and the rest. -/
theorem statMatch_sound {s rest : Str} {g : Str × Str} (h : statMatch s = some (g, rest)) :
    s = statLine g ++ rest := by
  unfold statMatch at h
  split at h
  · obtain ⟨m, hm, hv⟩ := List.exists_of_findSome?_eq_some h
    obtain ⟨v, hvt, hg⟩ := Option.map_eq_some'.mp hv
    simp only [Prod.mk.injEq] at hg
    obtain ⟨rfl, rfl⟩ := hg
    rw [← (mem_dotPlus hm).2, valueTail_eq_some hvt]
    simp [statLine, text]
  · cases h

theorem statMatch_length {s rest : Str} {g : Str × Str} (h : statMatch s = some (g, rest)) :
    rest.length < s.length := by
  rw [statMatch_sound h]; simp [statLine, text]; omega

/-- **The line of a name and a space-free value matches with the pair as its groups.** -/
theorem statMatch_statLine {p : Str × Str} (hp : Splittable p) (rest : Str) :
    statMatch (statLine p ++ rest) = some (p, rest) := by
  obtain ⟨n, v⟩ := p
  have hnot : '\n' ∉ ' ' :: (v ++ ['\r']) := by simpa using hp.value_one_line
  have hw : ' ' :: (v ++ '\r' :: '\n' :: rest) = (' ' :: (v ++ ['\r'])) ++ '\n' :: rest := by
    simp
  -- every split of the first group past `n` leaves a head that is not a space
  have hpast : ∀ m ∈ dotPlus (' ' :: (v ++ '\r' :: '\n' :: rest)),
      valueTail m.2 = none := by
    rw [hw, dotPlus_append hnot, dotPlus_newline]
    simp only [List.map_nil, List.nil_append, List.mem_map]
    rintro _ ⟨⟨g, r⟩, hm, rfl⟩
    obtain ⟨hg, hgr⟩ := mem_dotPlus hm
    cases r with
    | nil => rfl
    | cons c r =>
      obtain ⟨g0, g', rfl⟩ := List.exists_cons_of_ne_nil hg
      have hc : c ∈ v ++ ['\r'] := by
        simp only [List.cons_append, List.cons.injEq] at hgr
        rw [← hgr.2]; simp
      refine valueTail_of_ne (fun hcs => ?_) _
      subst hcs
      simp only [List.mem_append, List.mem_singleton] at hc
      exact hp.value_no_space (hc.resolve_right (by decide))
  obtain ⟨l, hl⟩ := dotPlus_eq_cons hp.name_ne_nil hp.name_one_line
  have hnone : (List.map (fun m => (n ++ m.1, m.2))
      (dotPlus (' ' :: (v ++ '\r' :: '\n' :: rest)))).findSome?
        (fun m => (valueTail m.2).map fun w => ((m.1, w.1), w.2)) = none := by
    simp only [List.findSome?_eq_none_iff, List.mem_map]
    rintro _ ⟨m, hm, rfl⟩
    simp [hpast m hm]
  simp only [statLine, text, String.toList, List.cons_append, List.nil_append, statMatch,
    List.append_assoc]
  rw [dotPlus_append hp.name_one_line, List.findSome?_append, hnone, hl]
  simp [valueTail_line hp.value_ne_nil hp.value_one_line]

/-! ## The block -/

/-- Fuel past the length of the text changes nothing. -/
theorem statFinditerAux_fuel {s : Str} {fuel fuel' : Nat} (h : s.length ≤ fuel)
    (h' : s.length ≤ fuel') : statFinditerAux fuel s = statFinditerAux fuel' s := by
  induction fuel generalizing s fuel' with
  | zero =>
    rw [List.length_eq_zero.mp (Nat.le_zero.mp h)]
    cases fuel' <;> rfl
  | succ fuel ih =>
    match s, fuel', h' with
    | [], fuel', _ => cases fuel' <;> rfl
    | c :: cs, fuel' + 1, h' =>
      simp only [statFinditerAux]
      split
      · next groups rest hm =>
        have := statMatch_length hm
        simp only [List.length_cons] at h h' this
        rw [ih (by omega) (show rest.length ≤ fuel' by omega)]
      · simp only [List.length_cons] at h h'
        rw [ih (by omega) (show cs.length ≤ fuel' by omega)]

theorem statFinditer_statLine {p : Str × Str} (hp : Splittable p) (rest : Str) :
    statFinditer (statLine p ++ rest) = p :: statFinditer rest := by
  have hlen : (statLine p ++ rest).length = (statLine p).length - 1 + rest.length + 1 := by
    simp [statLine, text]; omega
  obtain ⟨c, cs, hcs⟩ : ∃ c cs, statLine p ++ rest = c :: cs := ⟨'S', _, rfl⟩
  rw [statFinditer, hlen, hcs, statFinditerAux, ← hcs, statMatch_statLine hp]
  exact congrArg _ (statFinditerAux_fuel (by omega) le_rfl)

/-- **Over a block of splittable lines, `finditer` yields the pairs, in order.** -/
theorem statFinditer_statBlock {pairs : List (Str × Str)} (h : ∀ p ∈ pairs, Splittable p) :
    statFinditer (statBlock pairs) = pairs := by
  induction pairs with
  | nil => rfl
  | cons p ps ih =>
    rw [statBlock, List.map_cons, List.flatten_cons, List.append_assoc,
      statFinditer_statLine (h p (List.mem_cons_self p ps))]
    exact congrArg _ (ih fun q hq => h q (List.mem_cons_of_mem p hq))

/-- **The `dict` of a block maps each name to its last value.** -/
theorem statsDict_statBlock {pairs : List (Str × Str)} (h : ∀ p ∈ pairs, Splittable p)
    (n : Str) : (statsDict (statBlock pairs)).get? n = lastValue pairs n := by
  rw [statsDict, statFinditer_statBlock h, PyDict.get?_ofPairs]

/-! ## The reply bytes -/

theorem toUInt8_toNat_of_lt {n : Nat} (h : n < 256) : n.toUInt8.toNat = n :=
  UInt8.toNat_ofNat_of_lt h

theorem utf8Decode_encodeAscii {s : Str} (h : ∀ c ∈ s, c.toNat < 0x80) :
    utf8Decode (encodeAscii s) = some s := by
  have hb : ∀ b ∈ encodeAscii s, b.toNat < 0x80 := by
    simp only [encodeAscii, List.mem_map]
    rintro _ ⟨c, hc, rfl⟩
    rw [toUInt8_toNat_of_lt (by have := h c hc; omega)]; exact h c hc
  rw [utf8Decode_ascii hb, encodeAscii, List.map_map]
  refine congrArg some ((List.map_congr_left fun c hc => ?_).trans (List.map_id s))
  simp [toUInt8_toNat_of_lt (by have := h c hc; omega : c.toNat < 256)]

theorem encodeAscii_statBlock (pairs : List (Str × Str)) :
    encodeAscii (statBlock pairs) = encodeAscii (pairs.map statLine).flatten ++ END := by
  simp only [statBlock, encodeAscii, List.map_append]; rfl

theorem splittable_of_printable {p : Str × Str} (hn : p.1 ≠ []) (hv : p.2 ≠ [])
    (h : ∀ ch ∈ p.1 ++ p.2, 0x21 ≤ ch.toNat ∧ ch.toNat ≤ 0x7E) : Splittable p := by
  have hlow : ∀ ch ∈ p.1 ++ p.2, 0x21 ≤ ch.toNat := fun ch hch => (h ch hch).1
  refine ⟨hn, fun hm => ?_, hv, fun hm => ?_, fun hm => ?_⟩
  · exact absurd (hlow _ (List.mem_append_left _ hm)) (by decide)
  · exact absurd (hlow _ (List.mem_append_right _ hm)) (by decide)
  · exact absurd (hlow _ (List.mem_append_right _ hm)) (by decide)

theorem statLine_ascii {p : Str × Str} (h : ∀ ch ∈ p.1 ++ p.2, ch.toNat < 0x80) :
    ∀ ch ∈ statLine p, ch.toNat < 0x80 := by
  have hlit : ∀ ch ∈ text "STAT " ++ text " \r\n", ch.toNat < 0x80 := by decide
  intro ch hch
  simp only [statLine, List.mem_append, List.mem_cons] at hch
  rcases hch with (hs | hn) | hsp | hv | hcr
  · exact hlit ch (List.mem_append_left _ hs)
  · exact h ch (List.mem_append_left _ hn)
  · subst hsp; decide
  · exact h ch (List.mem_append_right _ hv)
  · exact hlit ch (List.mem_append_right _ (List.mem_cons_of_mem ' ' hcr))

theorem statBlock_ascii {pairs : List (Str × Str)}
    (h : ∀ p ∈ pairs, ∀ ch ∈ p.1 ++ p.2, ch.toNat < 0x80) :
    ∀ ch ∈ statBlock pairs, ch.toNat < 0x80 := by
  intro ch hch
  simp only [statBlock, List.mem_append, List.mem_flatten, List.mem_map] at hch
  rcases hch with ⟨_, ⟨p, hp, rfl⟩, hl⟩ | hend
  · exact statLine_ascii (h p hp) ch hl
  · exact (by decide : ∀ ch ∈ text "END\r\n", ch.toNat < 0x80) ch hend

/-- **A block of ASCII lines comes back as its `dict`.** -/
theorem statsResult_statBlock {pairs : List (Str × Str)}
    (h : ∀ c ∈ statBlock pairs, c.toNat < 0x80) :
    statsResult (encodeAscii (statBlock pairs)) = .ok (statsDict (statBlock pairs)) := by
  have hend : END <:+ encodeAscii (statBlock pairs) := by
    rw [encodeAscii_statBlock]; exact List.suffix_append _ _
  have hne : encodeAscii (statBlock pairs) ≠ [] := by
    rw [encodeAscii_statBlock]; simp [END, ascii]
  simp [statsResult, hend, hne, utf8Decode_encodeAscii h]

end Stats
end Emcache
