import Mathlib
import TokenTheme.Proofs.Color.Notation
/-!
# Colors by their bytes

A reader that takes the digits of a color out by their bytes and counts each component in a byte may
break off: where a cut would divide a character, and where a number is too large. `ofBytes` is such
a reader. It never breaks off and comes to the same as the other one (`ofBytes_eq`), because all
digits are ASCII before the first cut is made. With the notation this gives the whole behaviour of
reading a color, `ofHex_notation`.
-/
namespace TokenTheme.Color

open Text (byteLength)

def byte? (n : Nat) : Option UInt8 :=
  if n < 256 then some n.toUInt8 else none

def number (digits : List Char) : Except Flaw Nat :=
  match digits.mapM Text.hexValue? with
  | some values => .ok (values.foldl (16 * · + ·) 0)
  | none => .error (.component digits)

/-- One of the components that are `width` bytes wide each, times `scale`. There is no result at all
where the bytes are no whole characters or the product does not fit into a byte. -/
def componentAt (h : List Char) (width scale i : Nat) : ExceptT Flaw Option UInt8 := do
  let digits ← Text.slice? (i * width) (i * width + width) h
  let n ← number digits
  byte? (scale * n)

def ofComponents (parts : List UInt8) : Color :=
  ⟨parts.getD 0 255, parts.getD 1 255, parts.getD 2 255, parts.getD 3 255⟩

def components (h : List Char) (width scale count : Nat) : ExceptT Flaw Option Color := do
  let parts ← (List.range count).mapM (componentAt h width scale)
  return ofComponents parts

def ofDigitBytes (h : List Char) : ExceptT Flaw Option Color :=
  match byteLength h with
  | 3 => components h 1 17 3
  | 4 => components h 1 17 4
  | 6 => components h 2 1 3
  | 8 => components h 2 1 4
  | count => throw (.length count)

def ofBytes (h : List Char) : ExceptT Flaw Option Color :=
  if h.map Char.toLower = "white".toList then pure white
  else if h.map Char.toLower = "black".toList then pure black
  else if h.any (128 ≤ ·.toNat) then throw .nonAscii
  else ofDigitBytes h

def sure {α : Type} (r : Except Flaw α) : ExceptT Flaw Option α := ExceptT.mk (some r)

section Sure

variable {α β : Type}

theorem sure_bind (r : Except Flaw α) (f : α → Except Flaw β) :
    (sure r >>= fun a => sure (f a)) = sure (r >>= f) := by
  cases r <;> rfl

theorem mapM_sure {f : α → ExceptT Flaw Option β} {g : α → Except Flaw β} {items : List α}
    (each : ∀ a ∈ items, f a = sure (g a)) : items.mapM f = sure (items.mapM g) := by
  induction items with
  | nil => rfl
  | cons a rest ih =>
    rw [List.mapM_cons, List.mapM_cons, each a List.mem_cons_self,
      ih fun b member => each b (List.mem_cons_of_mem a member)]
    cases g a with
    | error flaw => rfl
    | ok b => exact sure_bind (rest.mapM g) fun others => .ok (b :: others)

end Sure

theorem components_eq {h : List Char} {width scale count : Nat} {g : Nat → Except Flaw UInt8}
    (each : ∀ i < count, componentAt h width scale i = sure (g i)) :
    components h width scale count =
      sure ((List.range count).mapM g >>= fun parts => .ok (ofComponents parts)) := by
  unfold components
  rw [mapM_sure fun i member => each i (List.mem_range.mp member)]
  exact sure_bind _ _

theorem byte?_of_lt {n : Nat} (fits : n < 256) : byte? n = some n.toUInt8 := if_pos fits

section Components

variable {h : List Char} (ascii : ∀ c ∈ h, c.toNat < 128) {i : Nat} {c d : Char}
include ascii

theorem componentAt_twice (here : h[i]? = some c) : componentAt h 1 17 i = sure (twice c) := by
  obtain ⟨inside, rfl⟩ := List.getElem?_eq_some_iff.mp here
  have digits : Text.slice? (i * 1) (i * 1 + 1) h = some [h[i]] := by
    rw [Text.slice?_ascii ascii (by omega) (by omega), Nat.mul_one, List.drop_take,
      Nat.add_sub_cancel_left, List.drop_eq_getElem_cons inside]
    rfl
  unfold componentAt twice
  rw [digits]
  show (do let n ← number [h[i]]; byte? (17 * n) : ExceptT Flaw Option UInt8) = _
  unfold number
  rw [List.mapM_cons, List.mapM_nil]
  cases value : Text.hexValue? h[i] with
  | none => rfl
  | some n =>
    have bound := Text.hexValue?_lt value
    show (byte? (17 * (16 * 0 + n)) : ExceptT Flaw Option UInt8) = _
    rw [Nat.mul_zero, Nat.zero_add, byte?_of_lt (by omega)]
    rfl

theorem componentAt_pair (first : h[i * 2]? = some c) (second : h[i * 2 + 1]? = some d) :
    componentAt h 2 1 i = sure (pair c d) := by
  obtain ⟨outside, rfl⟩ := List.getElem?_eq_some_iff.mp first
  obtain ⟨inside, rfl⟩ := List.getElem?_eq_some_iff.mp second
  have digits : Text.slice? (i * 2) (i * 2 + 2) h = some [h[i * 2], h[i * 2 + 1]] := by
    rw [Text.slice?_ascii ascii (by omega) (by omega), List.drop_take, Nat.add_sub_cancel_left,
      List.drop_eq_getElem_cons outside, List.drop_eq_getElem_cons inside]
    rfl
  unfold componentAt pair
  rw [digits]
  show (do let n ← number [h[i * 2], h[i * 2 + 1]]; byte? (1 * n) : ExceptT Flaw Option UInt8) = _
  unfold number
  rw [List.mapM_cons, List.mapM_cons, List.mapM_nil]
  cases high : Text.hexValue? h[i * 2] with
  | none => rfl
  | some m =>
    cases low : Text.hexValue? h[i * 2 + 1] with
    | none => rfl
    | some n =>
      have highBound := Text.hexValue?_lt high
      have lowBound := Text.hexValue?_lt low
      show (byte? (1 * (16 * (16 * 0 + m) + n)) : ExceptT Flaw Option UInt8) = _
      rw [Nat.one_mul, Nat.mul_zero, Nat.zero_add, byte?_of_lt (by omega)]
      rfl

theorem components_twice {count : Nat} (inside : count ≤ h.length) :
    components h 1 17 count = sure ((List.range count).mapM (fun i => twice (h.getD i ' ')) >>=
      fun parts => .ok (ofComponents parts)) := by
  apply components_eq
  intro i below
  have here : i < h.length := Nat.lt_of_lt_of_le below inside
  exact componentAt_twice ascii (by simp [here])

theorem components_pair {count : Nat} (inside : count * 2 ≤ h.length) :
    components h 2 1 count = sure ((List.range count).mapM
      (fun i => pair (h.getD (i * 2) ' ') (h.getD (i * 2 + 1) ' ')) >>=
        fun parts => .ok (ofComponents parts)) := by
  apply components_eq
  intro i below
  have first : i * 2 < h.length := by omega
  have second : i * 2 + 1 < h.length := by omega
  exact componentAt_pair ascii (by simp [first]) (by simp [second])

end Components

theorem ofDigitBytes_eq {h : List Char} (ascii : ∀ c ∈ h, c.toNat < 128) :
    ofDigitBytes h = sure (ofDigits h) := by
  have three (g : Nat → Except Flaw UInt8) : (List.range 3).mapM g = do
      return [← g 0, ← g 1, ← g 2] := by
    simp [show List.range 3 = [0, 1, 2] from rfl]
  have four (g : Nat → Except Flaw UInt8) : (List.range 4).mapM g = do
      return [← g 0, ← g 1, ← g 2, ← g 3] := by
    simp [show List.range 4 = [0, 1, 2, 3] from rfl]
  unfold ofDigitBytes
  rw [Text.byteLength_ascii ascii]
  match h, ascii with
  | [r, g, b], ascii =>
    refine (components_twice ascii (by simp)).trans (congrArg sure ?_)
    simp only [three, bind_assoc, pure_bind]
    rfl
  | [r, g, b, a], ascii =>
    refine (components_twice ascii (by simp)).trans (congrArg sure ?_)
    simp only [four, bind_assoc, pure_bind]
    rfl
  | [r, r', g, g', b, b'], ascii =>
    refine (components_pair ascii (by simp)).trans (congrArg sure ?_)
    simp only [three, bind_assoc, pure_bind]
    rfl
  | [r, r', g, g', b, b', a, a'], ascii =>
    refine (components_pair ascii (by simp)).trans (congrArg sure ?_)
    simp only [four, bind_assoc, pure_bind]
    rfl
  -- No other number of digits is looked into.
  | [], _ | [_], _ | [_, _], _ | [_, _, _, _, _], _ | [_, _, _, _, _, _, _], _ => rfl
  | _ :: _ :: _ :: _ :: _ :: _ :: _ :: _ :: _ :: rest, _ => rfl

theorem ofBytes_eq (h : List Char) : ofBytes h = sure (ofBody h) := by
  unfold ofBytes ofBody
  split
  · rfl
  · split
    · rfl
    · split
      · rfl
      · rename_i small
        exact ofDigitBytes_eq (by simpa using small)

/-- Without the look at all characters first, a cut may divide one. -/
example : (ofDigitBytes "aéb".toList).run = none := by decide

def ofHexBytes (text : String) : Option (Except Error Color) :=
  (ofBytes (body text)).run.map fun result =>
    result.mapError fun flaw => .invalidColor text flaw.reason

/-- Just the texts of the notation are colors, and all others are refused with the text as it is. On
no text does the reading by bytes break off. -/
theorem ofHex_notation (text : String) :
    ∃ h, (∀ other, Bare text.toList other ↔ other = h) ∧
      (∀ color, ofHex text = .ok color ↔ Spells h color) ∧
      ((∃ reason, ofHex text = .error (.invalidColor text reason)) ↔
        ¬ ∃ color, Spells h color) ∧
      ofHexBytes text = some (ofHex text) := by
  refine ⟨body text, fun other => bare_iff, fun color => ofHex_eq_ok_iff, ?_, ?_⟩
  · constructor
    · rintro ⟨reason, refused⟩ ⟨color, spelled⟩
      cases refused.symm.trans (ofHex_eq_ok_iff.mpr spelled)
    · intro meaningless
      cases read : ofBody (body text) with
      | ok color => exact absurd ⟨color, ofBody_eq_ok_iff.mp read⟩ meaningless
      | error flaw => exact ⟨flaw.reason, congrArg (Except.mapError _) read⟩
  · unfold ofHexBytes
    rw [ofBytes_eq]
    rfl

end TokenTheme.Color
