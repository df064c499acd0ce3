import Mathlib.Data.List.Perm.Basic
import Mathlib.Data.List.Rotate
/-
  Shingo.Debuglog.Ring — the ring buffer of `debuglog.Logger`
  (`shingo-core/debuglog/debuglog.go`): `New`, `Log`, `Entries` and `Subsystems`.

  The ring is a slice of `size` slots, the slot `pos` the next `Log` writes, and `full`,
  set once `pos` has wrapped to 0. `Entries` copies the live slots out oldest first, from
  `pos` round to `pos - 1` once the ring is full and from 0 to `pos - 1` before; `Subsystems`
  scans the live slots in slot order into a map and returns its keys, in the order the
  runtime iterates the map. A logger is built by `New` with a positive size only (a size 0
  ring panics on its first `Log`), so the slice has `size` slots and `pos` is one of them:
  the structure carries both. The file output and the `onEntry` callback do not touch the
  ring and are not modelled; an entry's time and message are the library's
  (`time.Now().UTC()`, `fmt.Sprintf`), so a `Log` call is the entry it builds.

  Proved:
  - `Holds`, `holds_logAll`: after `n` calls, `pos = n mod size`, `full ↔ n ≥ size`, and the
    slots read from `pos` round are the last `size` of `size` zero entries and the `n`
    logged ones.
  - `entries_last_logged`: `Entries("")` is the last `min(n, size)` entries logged, oldest
    first, and `Entries(sub)` those of subsystem `sub`.
  - `subsystems_iff`: on every logger, `Subsystems()` lists each non-empty subsystem of
    `Entries("")` once, though it scans the slots in slot order; so
    `subsystems_match_entries` after any run.
-/

namespace Shingo.Debuglog

/-- `debuglog.Entry`; `time` is in Unix nanoseconds. The zero entry is `default`. -/
structure Entry where
  time : Int
  subsystem : String
  message : String
  deriving DecidableEq, Repr, Inhabited

/-- The ring fields of `debuglog.Logger`. -/
structure Logger where
  entries : List Entry
  pos : Nat
  full : Bool
  size : Nat
  length_entries : entries.length = size
  pos_lt : pos < size

/-- `New(ringSize, fileFilter)`, its ring: `ringSize` zero entries. -/
def new (ringSize : Nat) (h : 0 < ringSize) : Logger :=
  ⟨List.replicate ringSize default, 0, false, ringSize, List.length_replicate .., h⟩

namespace Logger

/-- `Log`, its ring part: the call's entry goes in slot `pos`. -/
def log (l : Logger) (e : Entry) : Logger where
  entries := l.entries.set l.pos e
  pos := (l.pos + 1) % l.size
  full := (l.pos + 1) % l.size == 0 || l.full
  size := l.size
  length_entries := by rw [List.length_set, l.length_entries]
  pos_lt := Nat.mod_lt _ (Nat.lt_of_le_of_lt (Nat.zero_le _) l.pos_lt)

/-- A sequence of `Log` calls, oldest first. -/
def logAll (l : Logger) (es : List Entry) : Logger := es.foldl log l

/-- The live slot count both readers compute: `size` once full, else `pos`. -/
def count (l : Logger) : Nat := if l.full then l.size else l.pos

end Logger

/-- Go's `copy(dst, src)`: the first `min(len(dst), len(src))` slots of `dst` take `src`'s;
    the new `dst`, and the count copied. -/
def copy {α : Type} (dst src : List α) : List α × Nat :=
  (src.take dst.length ++ dst.drop src.length, min dst.length src.length)

namespace Logger

/-- `Entries(subsystem)`, named apart from the field `entries`. -/
def entriesFor (l : Logger) (subsystem : String) : List Entry :=
  let raw := List.replicate l.count default
  let raw :=
    if l.full then
      let r := copy raw (l.entries.drop l.pos)
      r.1.take r.2 ++ (copy (r.1.drop r.2) (l.entries.take l.pos)).1
    else (copy raw (l.entries.take l.pos)).1
  if subsystem = "" then raw else raw.filter (·.subsystem == subsystem)

/-- The keys of `Subsystems`' map `seen` after its loop over `entries[0..count)`. -/
def seen (l : Logger) : List String :=
  (l.entries.take l.count).foldl (fun seen e => if e.subsystem ≠ "" then seen.insert e.subsystem else seen) []

/-- `Subsystems()` may return `out`: the keys of `seen`, in any order. -/
def Subsystems (l : Logger) (out : List String) : Prop := out.Perm l.seen

instance (l : Logger) (out : List String) : Decidable (l.Subsystems out) :=
  inferInstanceAs (Decidable (out.Perm l.seen))

end Logger

/-! ## Reading the ring -/

theorem copy_eq {α : Type} {dst src : List α} (h : src.length ≤ dst.length) :
    copy dst src = (src ++ dst.drop src.length, src.length) := by
  simp [copy, List.take_of_length_le h, Nat.min_eq_right h]

namespace Logger

theorem entriesFor_empty (l : Logger) :
    l.entriesFor "" = if l.full then l.entries.rotate l.pos else l.entries.take l.pos := by
  have hlen := l.length_entries
  have hpos : l.pos ≤ l.entries.length := by have := l.pos_lt; omega
  simp only [entriesFor, count, if_true]
  split
  · have hd : (l.entries.drop l.pos).length ≤ (List.replicate l.size (default : Entry)).length := by
      simp; omega
    rw [copy_eq hd, List.take_left' rfl, copy_eq (by simp; omega), List.rotate_eq_drop_append_take hpos]
    simp; omega
  · rw [copy_eq (by simp)]
    simp [Nat.min_eq_left hpos]

theorem entriesFor_sub (l : Logger) {sub : String} (h : sub ≠ "") :
    l.entriesFor sub = (l.entriesFor "").filter (·.subsystem == sub) := by
  simp only [entriesFor, if_neg h, if_true]

theorem take_count_perm (l : Logger) : (l.entries.take l.count).Perm (l.entriesFor "") := by
  rw [entriesFor_empty, count]
  split
  · rw [← l.length_entries, List.take_length]
    exact (List.rotate_perm _ _).symm
  · exact .refl _

end Logger

/-! ## `Subsystems` -/

theorem mem_foldl_insert (es : List Entry) (seen : List String) (x : String) :
    x ∈ es.foldl (fun seen e => if e.subsystem ≠ "" then seen.insert e.subsystem else seen) seen ↔
      x ∈ seen ∨ x ≠ "" ∧ ∃ e ∈ es, e.subsystem = x := by
  induction es generalizing seen with
  | nil => simp
  | cons e es ih =>
    rw [List.foldl_cons, ih]
    by_cases he : e.subsystem = ""
    · by_cases hx : x = "" <;> simp [he, hx, eq_comm, or_and_right, exists_or]
    · by_cases hx : x = e.subsystem <;> simp [he, hx, eq_comm, or_and_right, exists_or, List.mem_insert_iff]

theorem nodup_foldl_insert (es : List Entry) {seen : List String} (h : seen.Nodup) :
    (es.foldl (fun seen e => if e.subsystem ≠ "" then seen.insert e.subsystem else seen) seen).Nodup := by
  induction es generalizing seen with
  | nil => exact h
  | cons e es ih =>
    rw [List.foldl_cons]
    split
    · exact ih (h.insert)
    · exact ih h

namespace Logger

/-- On every logger, `Subsystems()` lists each non-empty subsystem among the entries
    `Entries("")` returns, once. -/
theorem subsystems_iff (l : Logger) {out : List String} (h : l.Subsystems out) :
    out.Nodup ∧ ∀ x, x ∈ out ↔ x ≠ "" ∧ ∃ e ∈ l.entriesFor "", e.subsystem = x := by
  refine ⟨h.nodup_iff.mpr (nodup_foldl_insert _ List.nodup_nil), fun x => ?_⟩
  rw [h.mem_iff, seen, mem_foldl_insert]
  simp only [List.not_mem_nil, false_or, (take_count_perm l).mem_iff]

end Logger

/-! ## The ring and the history -/

/-- The ring after logging `es` into an empty ring of its size: `pos` is the count mod the
    size, `full` says the count reached the size, and the slots read from `pos` round are
    the last `size` of `size` zero entries followed by `es`. -/
structure Holds (l : Logger) (es : List Entry) : Prop where
  pos_eq : l.pos = es.length % l.size
  full_iff : l.full = true ↔ l.size ≤ es.length
  rotate_eq : l.entries.rotate l.pos = (List.replicate l.size default ++ es).drop es.length

theorem rotate_set_succ {α : Type} {l : List α} {p : Nat} (hp : p < l.length) (a : α) :
    (l.set p a).rotate (p + 1) = (l.rotate p).tail ++ [a] := by
  have hlen : (l.take p ++ [a]).length = p + 1 := by simp [Nat.min_eq_left hp.le]
  rw [List.set_eq_take_append_cons_drop, if_pos hp, ← List.singleton_append, ← List.append_assoc,
    ← hlen, List.rotate_append_length_eq, List.rotate_eq_drop_append_take hp.le,
    List.tail_append_of_ne_nil (by simp [hp]), List.tail_drop, List.append_assoc, hlen]

theorem holds_new (s : Nat) (hs : 0 < s) : Holds (new s hs) [] :=
  ⟨rfl, by simp [new]; omega, by simp [new]⟩

theorem holds_log {l : Logger} {es : List Entry} (h : Holds l es) (e : Entry) :
    Holds (l.log e) (es ++ [e]) := by
  have hs := l.pos_lt
  have hlen := l.length_entries
  refine ⟨?_, ?_, ?_⟩
  · show (l.pos + 1) % l.size = (es ++ [e]).length % l.size
    rw [h.pos_eq, List.length_append, List.length_singleton, Nat.add_mod, Nat.mod_mod, ← Nat.add_mod]
  · show ((l.pos + 1) % l.size == 0 || l.full) = true ↔ l.size ≤ (es ++ [e]).length
    rw [Bool.or_eq_true, h.full_iff, beq_iff_eq, List.length_append, List.length_singleton]
    by_cases hf : l.size ≤ es.length
    · simp only [hf, or_true, true_iff]; omega
    · have hp : l.pos = es.length := by rw [h.pos_eq, Nat.mod_eq_of_lt (by omega)]
      rw [hp]
      rcases Nat.lt_or_ge (es.length + 1) l.size with hlt | hge
      · rw [Nat.mod_eq_of_lt hlt]; omega
      · rw [show es.length + 1 = l.size by omega, Nat.mod_self]; simp
  · have hl' : (l.entries.set l.pos e).length = l.size := by rw [List.length_set, hlen]
    have hmod : (l.entries.set l.pos e).rotate ((l.pos + 1) % l.size) =
        (l.entries.set l.pos e).rotate (l.pos + 1) := by
      rw [← hl', List.rotate_mod]
    show (l.entries.set l.pos e).rotate ((l.pos + 1) % l.size) =
      (List.replicate l.size (default : Entry) ++ (es ++ [e])).drop (es ++ [e]).length
    have hd : (List.replicate l.size (default : Entry) ++ es ++ [e]).drop (es.length + 1) =
        (List.replicate l.size default ++ es).drop (es.length + 1) ++ [e] :=
      List.drop_append_of_le_length (by simp; omega)
    rw [hmod, rotate_set_succ (by omega), h.rotate_eq, List.tail_drop, List.length_append,
      List.length_singleton, ← List.append_assoc, hd]

@[simp] theorem size_logAll (l : Logger) (es : List Entry) : (l.logAll es).size = l.size := by
  induction es generalizing l with
  | nil => rfl
  | cons e es ih => exact ih (l.log e)

theorem holds_logAll {l : Logger} {es : List Entry} (h : Holds l es) (more : List Entry) :
    Holds (l.logAll more) (es ++ more) := by
  induction more generalizing l es with
  | nil => simpa [Logger.logAll] using h
  | cons e more ih =>
    simpa [Logger.logAll] using ih (holds_log h e)

theorem Holds.entriesFor_empty {l : Logger} {es : List Entry} (h : Holds l es) :
    l.entriesFor "" = es.drop (es.length - min es.length l.size) := by
  have hs := l.pos_lt
  rw [l.entriesFor_empty]
  split
  · next hf =>
    have hle := h.full_iff.mp hf
    rw [h.rotate_eq, List.drop_append_eq_append_drop, Nat.min_eq_right hle]
    simp [Nat.sub_eq_zero_of_le hle]
  · next hf =>
    have hlt : es.length < l.size := Nat.lt_of_not_le fun hle => hf (h.full_iff.mpr hle)
    have hp : l.pos = es.length := by rw [h.pos_eq, Nat.mod_eq_of_lt hlt]
    have hrot : l.entries.rotate es.length = List.replicate (l.size - es.length) default ++ es := by
      rw [← hp, h.rotate_eq, hp, List.drop_append_eq_append_drop, List.drop_replicate, List.length_replicate,
        Nat.sub_eq_zero_of_le hlt.le, List.drop_zero]
    have hent : l.entries = es ++ List.replicate (l.size - es.length) default := by
      have hr := List.rotate_append_length_eq (List.replicate (l.size - es.length) (default : Entry)) es
      rw [List.length_replicate] at hr
      rw [← hr, ← hrot, List.rotate_rotate, Nat.add_sub_of_le hlt.le, ← l.length_entries, List.rotate_length]
    rw [hp, hent, List.take_left' rfl, Nat.min_eq_left hlt.le, Nat.sub_self, List.drop_zero]

/-- After `n` calls of `Log` on `New(s)`, `Entries("")` returns the last `min(n, s)`
    entries logged, oldest first, and `Entries(sub)` for `sub ≠ ""` those of them of
    subsystem `sub`. -/
theorem entries_last_logged (s : Nat) (hs : 0 < s) (es : List Entry) :
    ((new s hs).logAll es).entriesFor "" = es.drop (es.length - min es.length s) ∧
      ∀ sub, sub ≠ "" →
        ((new s hs).logAll es).entriesFor sub = (es.drop (es.length - min es.length s)).filter (·.subsystem == sub) := by
  have h := holds_logAll (holds_new s hs) es
  rw [List.nil_append] at h
  have he := h.entriesFor_empty
  rw [size_logAll] at he
  exact ⟨he, fun sub hsub => by rw [Logger.entriesFor_sub _ hsub, he]; rfl⟩

/-- A ring of 2 after three calls: the first entry is overwritten. -/
theorem entries_last_logged_wrap :
    0 < 2 ∧
      (((new 2 (by decide)).logAll [⟨1, "a", "x"⟩, ⟨2, "b", "y"⟩, ⟨3, "a", "z"⟩]).entriesFor "" =
        ([⟨1, "a", "x"⟩, ⟨2, "b", "y"⟩, ⟨3, "a", "z"⟩] : List Entry).drop (3 - min 3 2) ∧
      ∀ sub, sub ≠ "" →
        ((new 2 (by decide)).logAll [⟨1, "a", "x"⟩, ⟨2, "b", "y"⟩, ⟨3, "a", "z"⟩]).entriesFor sub =
          (([⟨1, "a", "x"⟩, ⟨2, "b", "y"⟩, ⟨3, "a", "z"⟩] : List Entry).drop (3 - min 3 2)).filter
            (·.subsystem == sub)) :=
  ⟨by decide, entries_last_logged 2 (by decide) [⟨1, "a", "x"⟩, ⟨2, "b", "y"⟩, ⟨3, "a", "z"⟩]⟩

example : ((new 2 (by decide)).logAll [⟨1, "a", "x"⟩, ⟨2, "b", "y"⟩, ⟨3, "a", "z"⟩]).entriesFor "" =
    [⟨2, "b", "y"⟩, ⟨3, "a", "z"⟩] := by
  decide

/-- After any calls of `Log` on `New(s)`, `Subsystems()` lists each non-empty subsystem of
    the entries `Entries("")` returns, once, whatever order it lists them in. -/
theorem subsystems_match_entries (s : Nat) (hs : 0 < s) (es : List Entry) (out : List String)
    (hout : ((new s hs).logAll es).Subsystems out) :
    out.Nodup ∧ ∀ x, x ∈ out ↔ x ≠ "" ∧ ∃ e ∈ ((new s hs).logAll es).entriesFor "", e.subsystem = x :=
  ((new s hs).logAll es).subsystems_iff hout

/-- A ring of 2 after three calls, its slots `[c, b]` in slot order: `Subsystems()` may
    list `a` and `b` in either order. -/
theorem subsystems_match_entries_wrap :
    0 < 2 ∧ ((new 2 (by decide)).logAll [⟨1, "", "x"⟩, ⟨2, "b", "y"⟩, ⟨3, "a", "z"⟩]).Subsystems ["a", "b"] ∧
      (["a", "b"].Nodup ∧ ∀ x, x ∈ ["a", "b"] ↔ x ≠ "" ∧
        ∃ e ∈ ((new 2 (by decide)).logAll [⟨1, "", "x"⟩, ⟨2, "b", "y"⟩, ⟨3, "a", "z"⟩]).entriesFor "",
          e.subsystem = x) :=
  ⟨by decide, by decide,
    subsystems_match_entries 2 (by decide) [⟨1, "", "x"⟩, ⟨2, "b", "y"⟩, ⟨3, "a", "z"⟩] ["a", "b"] (by decide)⟩

end Shingo.Debuglog
