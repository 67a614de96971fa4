import Mathlib
import TokenTheme.Text.Blank
import TokenTheme.Text.Cursor
import TokenTheme.Text.Hex
/-!
# Parts of a text

What is left of a text when its ends are cut off, the values of hexadecimal digits, and cuts at a
number of bytes. A text can be cut after so many bytes if and only if characters of just so many
bytes stand in front (`cut?_eq_some_iff`), so in ASCII texts every cut is possible.
-/
namespace TokenTheme

variable {α : Type} {p : α → Bool} {s rest : List α}

theorem dropWhile_eq_iff : s.dropWhile p = rest ↔
    ∃ front, s = front ++ rest ∧ (∀ a ∈ front, p a) ∧ ∀ a ∈ rest.head?, p a = false := by
  constructor
  · rintro rfl
    refine ⟨s.takeWhile p, List.takeWhile_append_dropWhile.symm,
      fun a member => List.mem_takeWhile_imp member, ?_⟩
    intro a first
    have stopped := List.head?_dropWhile_not p s
    rwa [Option.mem_def.mp first] at stopped
  · rintro ⟨front, rfl, dropped, stopped⟩
    rw [List.dropWhile_append_of_pos dropped]
    cases rest with
    | nil => rfl
    | cons a rest => exact List.dropWhile_cons_of_neg (by simp [stopped a rfl])

namespace Text

/-! ### Blanks at the ends -/

/-- A text is another one without the blanks at its ends. -/
structure Trims (s core : List Char) : Prop where
  around : ∃ front back, s = front ++ core ++ back ∧ (∀ c ∈ front, isBlank c) ∧
    ∀ c ∈ back, isBlank c
  head : ∀ c ∈ core.head?, isBlank c = false
  last : ∀ c ∈ core.getLast?, isBlank c = false

theorem trims_iff {s core : List Char} : Trims s core ↔ core = trim s := by
  have backward : core = trim s ↔
      (s.dropWhile isBlank).reverse.dropWhile isBlank = core.reverse := by
    rw [trim, ← List.reverse_eq_iff, eq_comm]
  rw [backward]
  constructor
  · rintro ⟨⟨front, back, rfl, blank, blank'⟩, head, last⟩
    rw [List.append_assoc, List.dropWhile_append_of_pos blank]
    cases core with
    | nil =>
      rw [List.nil_append, List.dropWhile_eq_nil_iff.mpr blank']
      rfl
    | cons c core =>
      rw [List.cons_append, List.dropWhile_cons_of_neg (by simp [head c rfl]), dropWhile_eq_iff]
      exact ⟨back.reverse, by simp, by simpa using blank', by rwa [List.head?_reverse]⟩
  · intro trimmed
    obtain ⟨back, middle, blank', last⟩ := dropWhile_eq_iff.mp trimmed
    rw [List.reverse_eq_iff, List.reverse_append, List.reverse_reverse] at middle
    obtain ⟨front, whole, blank, head⟩ := dropWhile_eq_iff.mp middle
    refine ⟨⟨front, back.reverse, by simpa using whole, blank, by simpa using blank'⟩, ?_, ?_⟩
    · intro c first
      exact head c (by rw [List.head?_append, Option.mem_def.mp first]; rfl)
    · rwa [List.head?_reverse] at last

/-! ### Digits -/

def IsHexDigit (c : Char) (n : Nat) : Prop :=
  "0123456789ABCDEF".toList[n]? = some c ∨ "0123456789abcdef".toList[n]? = some c

instance (c : Char) (n : Nat) : Decidable (IsHexDigit c n) := inferInstanceAs (Decidable (_ ∨ _))

theorem IsHexDigit.lt {c : Char} {n : Nat} (digit : IsHexDigit c n) : n < 16 := by
  rcases digit with capital | small
  · exact (List.getElem?_eq_some_iff.mp capital).1
  · exact (List.getElem?_eq_some_iff.mp small).1

theorem toNat_of_hexValue? {c : Char} {n : Nat} (read : hexValue? c = some n) :
    48 ≤ c.toNat ∧ c.toNat < 103 := by
  simp only [hexValue?, Bool.and_eq_true, decide_eq_true_eq] at read
  split at read
  · omega
  · split at read
    · omega
    · split at read
      · omega
      · cases read

theorem hexValue?_eq_some_iff {c : Char} {n : Nat} : hexValue? c = some n ↔ IsHexDigit c n := by
  constructor
  · intro read
    have each : ∀ m < 103, ∀ n ∈ hexValue? (Char.ofNat m), IsHexDigit (Char.ofNat m) n := by
      decide
    have digit := each c.toNat (toNat_of_hexValue? read).2
    rw [Char.ofNat_toNat] at digit
    exact digit n read
  · intro digit
    have each : ∀ n < 16, "0123456789ABCDEF".toList[n]?.bind hexValue? = some n ∧
        "0123456789abcdef".toList[n]?.bind hexValue? = some n := by
      decide
    obtain ⟨capitals, smalls⟩ := each n digit.lt
    rcases digit with capital | small
    · rwa [capital] at capitals
    · rwa [small] at smalls

theorem IsHexDigit.ascii {c : Char} {n : Nat} (digit : IsHexDigit c n) : c.toNat < 128 :=
  Nat.lt_trans (toNat_of_hexValue? (hexValue?_eq_some_iff.mpr digit)).2 (by decide)

/-- No digit is cut off with the ends of a text. -/
theorem IsHexDigit.kept {c : Char} {n : Nat} (digit : IsHexDigit c n) :
    isBlank c = false ∧ c ≠ '#' := by
  obtain ⟨low, high⟩ := toNat_of_hexValue? (hexValue?_eq_some_iff.mpr digit)
  constructor
  · simp only [isBlank, Bool.or_eq_false_iff, Bool.and_eq_false_iff, decide_eq_false_iff_not,
      beq_eq_false_iff_ne]
    omega
  · rintro rfl
    exact absurd low (by decide)

theorem isHexDigit_hexDigit {n : Nat} (small : n < 16) : IsHexDigit (hexDigit n) n :=
  hexValue?_eq_some_iff.mp (hexValue?_hexDigit small)

/-! ### Cuts between bytes -/

/-- The two parts of a text that is cut after so many bytes; none if there is no place for the cut,
because it would divide a character or lie behind the end. -/
def cut? : Nat → List Char → Option (List Char × List Char)
  | 0, s => some ([], s)
  | _ + 1, [] => none
  | n + 1, c :: rest =>
    if c.utf8Size ≤ n + 1 then
      (cut? (n + 1 - c.utf8Size) rest).map fun (front, back) => (c :: front, back)
    else none

def slice? (start stop : Nat) (s : List Char) : Option (List Char) := do
  let (front, _) ← cut? stop s
  let (_, middle) ← cut? start front
  return middle

theorem cut?_eq_some_iff {n : Nat} {s front back : List Char} :
    cut? n s = some (front, back) ↔ s = front ++ back ∧ byteLength front = n := by
  fun_induction cut? n s generalizing front back with
  | case1 s =>
    constructor
    · intro same
      cases same
      exact ⟨rfl, rfl⟩
    · rintro ⟨rfl, none_⟩
      cases front with
      | nil => rfl
      | cons c front =>
        have positive := c.utf8Size_pos
        simp only [byteLength] at none_
        omega
  | case2 n =>
    refine ⟨nofun, ?_⟩
    rintro ⟨nothing, some_⟩
    obtain ⟨rfl, rfl⟩ := List.append_eq_nil_iff.mp nothing.symm
    cases some_
  | case3 n c rest fits ih =>
    rw [Option.map_eq_some_iff]
    constructor
    · rintro ⟨⟨front', back'⟩, cut, same⟩
      cases same
      obtain ⟨rfl, counted⟩ := ih.mp cut
      refine ⟨rfl, ?_⟩
      simp only [byteLength]
      omega
    · rintro ⟨whole, counted⟩
      cases front with
      | nil => cases counted
      | cons d front =>
        cases whole
        simp only [byteLength] at counted
        exact ⟨(front, back), ih.mpr ⟨rfl, by omega⟩, rfl⟩
  | case4 n c rest tooLong =>
    refine ⟨nofun, ?_⟩
    rintro ⟨whole, counted⟩
    cases front with
    | nil => cases counted
    | cons d front =>
      cases whole
      simp only [byteLength] at counted
      omega

theorem byteLength_ascii {s : List Char} (ascii : ∀ c ∈ s, c.toNat < 128) :
    byteLength s = s.length := by
  induction s with
  | nil => rfl
  | cons c rest ih =>
    have one : c.utf8Size = 1 := by
      have code := ascii c List.mem_cons_self
      exact Char.utf8Size_eq_one_iff.mpr (UInt32.le_iff_toNat_le.mpr (Nat.le_of_lt_succ code))
    rw [byteLength, one, ih fun d member => ascii d (List.mem_cons_of_mem c member),
      List.length_cons, Nat.add_comm]

theorem slice?_ascii {start stop : Nat} {s : List Char} (ascii : ∀ c ∈ s, c.toNat < 128)
    (ordered : start ≤ stop) (inside : stop ≤ s.length) :
    slice? start stop s = some ((s.take stop).drop start) := by
  have outer : cut? stop s = some (s.take stop, s.drop stop) := by
    rw [cut?_eq_some_iff, byteLength_ascii fun c member => ascii c (List.mem_of_mem_take member)]
    simp [inside]
  have inner : cut? start (s.take stop) =
      some ((s.take stop).take start, (s.take stop).drop start) := by
    rw [cut?_eq_some_iff, byteLength_ascii fun c member =>
      ascii c (List.mem_of_mem_take (List.mem_of_mem_take member))]
    simp
    omega
  simp only [slice?, outer, Option.bind_eq_bind, Option.bind_some, inner]
  rfl

end Text

end TokenTheme
