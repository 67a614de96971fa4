import Mathlib
import TokenTheme.Regex.Scanner
/-!
# What is found is a range

What a scanner finds is a range of the text, from the byte where the search starts on, whatever
engine has made its patterns.
-/
namespace TokenTheme

namespace Text

theorem byteLength_reverse (s : List Char) : byteLength s.reverse = byteLength s := by
  induction s with
  | nil => rfl
  | cons c rest ih =>
    rw [List.reverse_cons, byteLength_append, ih]
    simp [byteLength, Nat.add_comm]

namespace Cursor

theorem offset_le_byteLength (c : Cursor) : c.offset ≤ byteLength c.text := by
  unfold text
  rw [byteLength_append, byteLength_reverse, c.offset_eq]
  exact Nat.le_add_right _ _

theorem reaches_of_firstSome {α : Type} {f : Cursor → Option α} {c : Cursor} {a : α}
    (found : c.firstSome f = some a) : ∃ d, c.Reaches d ∧ f d = some a := by
  fun_induction firstSome f c with
  | case1 c b here =>
    cases found
    exact ⟨c, .refl c, here⟩
  | case2 c absent atEnd => cases found
  | case3 c absent x d next ih =>
    obtain ⟨e, further, there⟩ := ih found
    exact ⟨e, (reaches_of_next? next).trans further, there⟩

theorem seek?_some {offset : Nat} {c d : Cursor} (found : c.seek? offset = some d) :
    c.Reaches d ∧ offset ≤ d.offset := by
  obtain ⟨e, reached, here⟩ := reaches_of_firstSome found
  split at here
  · rename_i far
    cases here
    exact ⟨reached, far⟩
  · cases here

end Cursor

end Text

namespace Regex.Scanner

open Text (Cursor)

theorem firstAt_some {index : Nat} {patterns : List Pattern} {c : Cursor} {m : Match}
    (found : firstAt index patterns c = some m) :
    index ≤ m.index ∧ m.index < index + patterns.length ∧
      ∃ d e, c.Reaches d ∧ d.Reaches e ∧ m.span = Regex.span d e := by
  induction patterns generalizing index with
  | nil => cases found
  | cons p rest ih =>
    unfold firstAt at found
    split at found
    · rename_i captures matched
      cases found
      obtain ⟨d, e, groups, later, between, rfl⟩ := p.range matched
      exact ⟨Nat.le_refl _, by simp, d, e, later, between, rfl⟩
    · obtain ⟨least, bound, range⟩ := ih found
      rw [List.length_cons]
      exact ⟨by omega, by omega, range⟩

/-- What a scanner finds is a range of the text that does not start before the search. -/
theorem find_some {s : Scanner} {text : String} {start : Nat} {m : Match}
    (found : s.find text start = some m) :
    m.index < s.patterns.length ∧ start ≤ m.span.start ∧ m.span.start ≤ m.span.stop ∧
      m.span.stop ≤ text.utf8ByteSize := by
  obtain ⟨c, sought, matched⟩ := Option.bind_eq_some_iff.mp found
  obtain ⟨entered, far⟩ := Cursor.seek?_some sought
  obtain ⟨d, moved, here⟩ := Cursor.reaches_of_firstSome matched
  obtain ⟨-, bound, e, e', later, between, range⟩ := firstAt_some here
  have inText : e'.text = text.toList :=
    (((entered.trans moved).trans later).trans between).text
  have stop := e'.offset_le_byteLength
  rw [inText, Text.byteLength_toList] at stop
  rw [range]
  exact ⟨by simpa using bound, Nat.le_trans far (moved.trans later).offset, between.offset, stop⟩

end Regex.Scanner

end TokenTheme
