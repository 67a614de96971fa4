/-!
# Cursors

A cursor is a place in a text: what stands before it, what stands after it, and how many bytes
stand before it. Main statement: `offset_eq`, which ties the count to the text.
-/
namespace TokenTheme.Text

def byteLength : List Char → Nat
  | [] => 0
  | c :: rest => c.utf8Size + byteLength rest

theorem byteLength_append (s t : List Char) :
    byteLength (s ++ t) = byteLength s + byteLength t := by
  induction s with
  | nil => simp [byteLength]
  | cons c rest ih => simp only [List.cons_append, byteLength, ih, Nat.add_assoc]

theorem utf8ByteSize_ofList (s : List Char) : (String.ofList s).utf8ByteSize = byteLength s := by
  induction s with
  | nil => rfl
  | cons c rest ih =>
    rw [show c :: rest = [c] ++ rest from rfl, String.ofList_append, String.utf8ByteSize_append,
      ih, byteLength_append]
    simp [byteLength]

/-- The bytes of a string are those of its characters. -/
theorem byteLength_toList (s : String) : byteLength s.toList = s.utf8ByteSize := by
  rw [← utf8ByteSize_ofList, String.ofList_toList]

structure Cursor where
  /-- The characters before the place, the nearest first. -/
  before : List Char
  /-- The characters after the place. -/
  after : List Char
  /-- The number of bytes before the place. -/
  offset : Nat
  offset_eq : offset = byteLength before
  deriving DecidableEq

namespace Cursor

def start (s : List Char) : Cursor := ⟨[], s, 0, rfl⟩

instance : Inhabited Cursor := ⟨start []⟩

/-- The next character and the place behind it. -/
def next? (c : Cursor) : Option (Char × Cursor) :=
  match c with
  | ⟨_, [], _, _⟩ => none
  | ⟨before, x :: after, offset, h⟩ =>
    some (x, ⟨x :: before, after, offset + x.utf8Size, by
      simp [byteLength, h, Nat.add_comm]⟩)

/-- The place before the nearest character on the left. -/
def previous? (c : Cursor) : Option Cursor :=
  match c with
  | ⟨[], _, _, _⟩ => none
  | ⟨x :: before, after, offset, h⟩ =>
    some ⟨before, x :: after, offset - x.utf8Size, by
      simp only [byteLength] at h
      omega⟩

def text (c : Cursor) : List Char := c.before.reverse ++ c.after

theorem next?_after_length {c d : Cursor} {x : Char} (h : c.next? = some (x, d)) :
    d.after.length < c.after.length := by
  obtain ⟨before, after, offset, h'⟩ := c
  cases after with
  | nil => simp [next?] at h
  | cons y after =>
    simp only [next?, Option.some.injEq, Prod.mk.injEq] at h
    simp [← h.2]

theorem next?_text {c d : Cursor} {x : Char} (h : c.next? = some (x, d)) : d.text = c.text := by
  obtain ⟨before, after, offset, h'⟩ := c
  cases after with
  | nil => simp [next?] at h
  | cons y after =>
    simp only [next?, Option.some.injEq, Prod.mk.injEq] at h
    simp [← h.2, text]

theorem previous?_before_length {c d : Cursor} (h : c.previous? = some d) :
    d.before.length < c.before.length := by
  obtain ⟨before, after, offset, h'⟩ := c
  cases before with
  | nil => simp [previous?] at h
  | cons y before =>
    simp only [previous?, Option.some.injEq] at h
    simp [← h]

/-- What `f` gives at the first place from here on where it gives something. -/
def firstSome {α : Type} (f : Cursor → Option α) (c : Cursor) : Option α :=
  match f c with
  | some a => some a
  | none =>
    match _h : c.next? with
    | none => none
    | some (_, d) => firstSome f d
termination_by c.after.length
decreasing_by exact next?_after_length (by assumption)

/-- What `f` gives at the nearest place from here back where it gives something. -/
def lastSome {α : Type} (f : Cursor → Option α) (c : Cursor) : Option α :=
  match f c with
  | some a => some a
  | none =>
    match _h : c.previous? with
    | none => none
    | some d => lastSome f d
termination_by c.before.length
decreasing_by exact previous?_before_length (by assumption)

/-- The first place from here on that has at least `offset` bytes before it; none if the text is
shorter. -/
def seek? (offset : Nat) (c : Cursor) : Option Cursor :=
  c.firstSome fun d => if offset ≤ d.offset then some d else none

/-- A place is in the same text as another one and not before it. -/
structure Reaches (c d : Cursor) : Prop where
  text : d.text = c.text
  offset : c.offset ≤ d.offset

theorem Reaches.refl (c : Cursor) : c.Reaches c := ⟨rfl, Nat.le_refl _⟩

theorem Reaches.trans {c d e : Cursor} (first : c.Reaches d) (second : d.Reaches e) :
    c.Reaches e :=
  ⟨second.text.trans first.text, Nat.le_trans first.offset second.offset⟩

theorem reaches_of_next? {c d : Cursor} {x : Char} (next : c.next? = some (x, d)) :
    c.Reaches d := by
  refine ⟨next?_text next, ?_⟩
  obtain ⟨before, after, offset, counted⟩ := c
  cases after with
  | nil => cases next
  | cons y rest =>
    cases next
    exact Nat.le_add_right _ _

/-- The characters from here up to a later place. -/
def upTo (c d : Cursor) : List Char :=
  c.after.take (d.before.length - c.before.length)

end Cursor

end TokenTheme.Text
