import Mathlib
import TokenTheme.Proofs.Regex.Range
/-!
# Searches miss nothing

A scanner goes through a text place by place. It finds something if and only if one of its patterns
matches anywhere from the start of the search on, be it at the very end of the text
(`Scanner.find_isSome_iff`).
-/
namespace TokenTheme

namespace Text

theorem byteLength_pos {s : List Char} (some_ : s ≠ []) : 0 < byteLength s := by
  cases s with
  | nil => exact absurd rfl some_
  | cons x rest => exact Nat.add_pos_left x.utf8Size_pos _

namespace Cursor

variable {α : Type} {f : Cursor → Option α} {c d : Cursor}

theorem Reaches.between (reached : c.Reaches d) :
    ∃ passed, d.before = passed.reverse ++ c.before ∧ c.after = passed ++ d.after := by
  obtain ⟨text, offset⟩ := reached
  rw [c.offset_eq, d.offset_eq] at offset
  -- The two places divide one text, so one of the beginnings is part of the other.
  rcases List.append_eq_append_iff.mp text with ⟨passed, front, rest⟩ | ⟨passed, front, rest⟩
  · have same : passed = [] := by
      by_contra some_
      have counted := congrArg byteLength front
      rw [byteLength_reverse, byteLength_append, byteLength_reverse] at counted
      have positive := byteLength_pos some_
      omega
    subst same
    refine ⟨[], ?_, by simpa using rest.symm⟩
    simpa using front.symm
  · exact ⟨passed, by simpa using congrArg List.reverse front, rest⟩

theorem eq_of_before_after (before : d.before = c.before) (after : d.after = c.after) : d = c := by
  obtain ⟨before', after', offset', counted'⟩ := d
  obtain ⟨before, after, offset, counted⟩ := c
  simp only at before after
  subst before after counted counted'
  rfl

theorem Reaches.cases_next (reached : c.Reaches d) :
    d = c ∨ ∃ x e, c.next? = some (x, e) ∧ e.Reaches d := by
  obtain ⟨passed, before, after⟩ := reached.between
  cases passed with
  | nil => exact .inl (eq_of_before_after before after.symm)
  | cons x rest =>
    right
    obtain ⟨before', after', offset', counted⟩ := c
    simp only at before after
    subst after
    refine ⟨x, _, rfl, reached.text.trans (next?_text rfl).symm, ?_⟩
    rw [d.offset_eq, before, List.reverse_cons, List.append_assoc, byteLength_append]
    simp only [List.cons_append, List.nil_append, byteLength, counted]
    omega

/-- If there is something at a place that is reached then the first such place is found. -/
theorem firstSome_first (reached : c.Reaches d) (there : (f d).isSome) :
    ∃ e a, c.firstSome f = some a ∧ f e = some a ∧ e.Reaches d := by
  fun_induction firstSome f c with
  | case1 c a here => exact ⟨c, a, rfl, here, reached⟩
  | case2 c here atEnd =>
    rcases reached.cases_next with rfl | ⟨x, e, next, -⟩
    · simp [here] at there
    · cases atEnd.symm.trans next
  | case3 c here x e next ih =>
    rcases reached.cases_next with rfl | ⟨x', e', next', onward⟩
    · simp [here] at there
    · cases next.symm.trans next'
      exact ih onward

theorem seek?_first {offset : Nat} (reached : c.Reaches d) (far : offset ≤ d.offset) :
    ∃ e, c.seek? offset = some e ∧ e.Reaches d := by
  obtain ⟨e, e', sought, same, onward⟩ :=
    firstSome_first (f := fun e => if offset ≤ e.offset then some e else none) reached
      (by simp [far])
  split at same
  · cases same
    exact ⟨e, sought, onward⟩
  · cases same

end Cursor

end Text

namespace Regex.Scanner

open Text (Cursor)

def Matches (s : Scanner) (text : String) (start : Nat) : Prop :=
  ∃ c : Cursor, c.text = text.toList ∧ start ≤ c.offset ∧
    ∃ p ∈ s.patterns, (p.matchAt? c).isSome

theorem firstAt_isSome_iff {index : Nat} {patterns : List Pattern} {c : Cursor} :
    (firstAt index patterns c).isSome ↔ ∃ p ∈ patterns, (p.matchAt? c).isSome := by
  induction patterns generalizing index with
  | nil => simp [firstAt]
  | cons p rest ih =>
    unfold firstAt
    cases here : p.matchAt? c with
    | some captures => simp [here]
    | none => simp [here, ih]

/-- A search succeeds if and only if there is a match from its start on. -/
theorem find_isSome_iff {s : Scanner} {text : String} {start : Nat} :
    (s.find text start).isSome ↔ s.Matches text start := by
  constructor
  · intro found
    obtain ⟨m, found⟩ := Option.isSome_iff_exists.mp found
    obtain ⟨first, sought, found⟩ := Option.bind_eq_some_iff.mp found
    obtain ⟨entered, far⟩ := Cursor.seek?_some sought
    obtain ⟨c, onward, here⟩ := Cursor.reaches_of_firstSome found
    have matched := firstAt_isSome_iff.mp (Option.isSome_of_eq_some here)
    exact ⟨c, (entered.trans onward).text, Nat.le_trans far onward.offset, matched⟩
  · rintro ⟨c, inText, far, matched⟩
    have reached : (Cursor.start text.toList).Reaches c := ⟨inText, Nat.zero_le _⟩
    obtain ⟨first, sought, onward⟩ := Cursor.seek?_first reached far
    have there : (firstAt 0 s.patterns c).isSome := firstAt_isSome_iff.mpr matched
    obtain ⟨-, m, found, -⟩ := Cursor.firstSome_first onward there
    rw [find, sought, Option.bind_some]
    exact Option.isSome_of_eq_some found

end Regex.Scanner

end TokenTheme
