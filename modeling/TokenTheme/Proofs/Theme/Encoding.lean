import Mathlib
import TokenTheme.Proofs.Packing
import TokenTheme.Proofs.Scope
import TokenTheme.Proofs.Theme.Decoding
import TokenTheme.Proofs.Theme.Tracing
/-!
# The style of a stack of scopes

What `encodeScopes` packs, field by field. The names of a stack are its scopes from the innermost
outwards, each with its proper beginnings, and last the empty name; each name brings the first rule
that has it. Foreground, background and font style are each sought among these rules on its own,
and a single pass that stops as soon as it has all three finds the same (`gather_eq`). The kind of
token is a matter of the scopes alone.
-/
namespace TokenTheme

namespace Snapshot

/-! ### The rules of a stack -/

def names (scopes : List String) : List String :=
  scopes.reverse.flatMap (fun scope => scope :: Scope.shorter (Scope.segments scope)) ++ [""]

def rulesOf (s : Snapshot) (scopes : List String) : List Rule :=
  (names scopes).filterMap fun name => s.theme.rules.find? (·.token = name)

theorem applicable_eq (scopes : List String) : applicable scopes = names scopes := by
  simp only [applicable, names, Scope.beginnings_eq]

theorem matchingRules_eq (s : Snapshot) (scopes : List String) :
    s.matchingRules scopes = s.rulesOf scopes := by
  unfold matchingRules rulesOf
  rw [applicable_eq]
  rfl

/-! ### One pass over the rules -/

structure Style where
  foreground : Option Nat := none
  background : Option Nat := none
  font : Option FontStyle := none
  deriving DecidableEq

namespace Style

def complete (found : Style) : Bool :=
  found.foreground.isSome && found.background.isSome && found.font.isSome

def add (s : Snapshot) (found : Style) (r : Rule) : Style where
  foreground := found.foreground.or (s.idOf? r.foreground)
  background := found.background.or (s.idOf? r.background)
  font := found.font.or (r.fontStyle.map FontStyle.ofText)

end Style

def gather (s : Snapshot) (found : Style) : List Rule → Style
  | [] => found
  | r :: rest =>
    let found := found.add s r
    if found.complete then found else s.gather found rest

/-- The style of a stack of scopes in one pass over its rules. -/
def encodeInOnePass (s : Snapshot) (scopes : List String) (language : UInt8) : Attributes :=
  let found := s.gather {} (s.matchingRules scopes)
  .encode language (kindOf scopes) false (found.font.getD .empty)
    (found.foreground.getD 0).toUInt32 (found.background.getD 0).toUInt32

theorem or_findSome?_cons {β : Type} (old : Option β) (f : Rule → Option β) (r : Rule)
    (rest : List Rule) :
    old.or ((r :: rest).findSome? f) = (old.or (f r)).or (rest.findSome? f) := by
  rw [Option.or_assoc, List.findSome?_cons]
  cases f r <;> rfl

def Style.orElse (s : Snapshot) (found : Style) (rules : List Rule) : Style where
  foreground := found.foreground.or (rules.findSome? fun r => s.idOf? r.foreground)
  background := found.background.or (rules.findSome? fun r => s.idOf? r.background)
  font := found.font.or (rules.findSome? fun r => r.fontStyle.map FontStyle.ofText)

theorem Style.orElse_cons (s : Snapshot) (found : Style) (r : Rule) (rest : List Rule) :
    found.orElse s (r :: rest) = (found.add s r).orElse s rest := by
  simp only [orElse, add, or_findSome?_cons]

theorem Style.orElse_of_complete {s : Snapshot} {found : Style} (complete : found.complete)
    (rules : List Rule) : found.orElse s rules = found := by
  unfold Style.complete at complete
  simp only [Bool.and_eq_true] at complete
  obtain ⟨⟨foreground, background⟩, font⟩ := complete
  simp only [orElse, Option.or_of_isSome, foreground, background, font]

/-- The pass finds each part on its own: it was found before, or a first rule brings it. -/
theorem gather_eq (s : Snapshot) (found : Style) (rules : List Rule) :
    s.gather found rules = found.orElse s rules := by
  induction rules generalizing found with
  | nil => simp [gather, Style.orElse]
  | cons r rest ih =>
    rw [Style.orElse_cons]
    unfold gather
    by_cases complete : (found.add s r).complete
    · rw [Style.orElse_of_complete complete]
      exact if_pos complete
    · rw [← ih]
      exact if_neg complete

theorem encodeInOnePass_eq (s : Snapshot) (scopes : List String) (language : UInt8) :
    s.encodeInOnePass scopes language = s.encodeScopes scopes language := by
  unfold encodeInOnePass encodeScopes
  simp only [gather_eq, Style.orElse, Option.none_or]

/-! ### The kind of token -/

def kinds : List (List Char × TokenKind) :=
  [("comment".toList, .comment), ("string".toList, .string), ("regex".toList, .regex)]

def Embedded (scope : String) : Prop := "meta.embedded".toList <+: scope.toList

/-- A scope tells a kind of token: embedded text is of no special kind, and any other scope is of
the kind that the first of its segments names which names one. -/
inductive Tells (scope : String) : TokenKind → Prop where
  | embedded : Embedded scope → Tells scope .other
  | named {before after : List (List Char)} {segment : List Char} {kind : TokenKind} :
      ¬ Embedded scope → Scope.segments scope = before ++ segment :: after →
      (segment, kind) ∈ kinds → (∀ earlier ∈ before, ∀ k, (earlier, k) ∉ kinds) → Tells scope kind

/-- The kind of a stack of scopes: that of the innermost scope that tells one. -/
inductive Told (scopes : List String) : TokenKind → Prop where
  | innermost {outer inner : List String} {scope : String} {kind : TokenKind} :
      scopes = outer ++ scope :: inner → Tells scope kind →
      (∀ further ∈ inner, ∀ k, ¬ Tells further k) → Told scopes kind
  | nowhere : (∀ scope ∈ scopes, ∀ k, ¬ Tells scope k) → Told scopes .other

theorem mem_kinds {segment : List Char} {kind : TokenKind} :
    (segment, kind) ∈ kinds ↔ segment = "comment".toList ∧ kind = .comment ∨
      segment = "string".toList ∧ kind = .string ∨ segment = "regex".toList ∧ kind = .regex := by
  simp only [kinds, List.mem_cons, Prod.mk.injEq, List.not_mem_nil, or_false]

theorem lookup_kinds {segment : List Char} {kind : TokenKind} :
    kinds.lookup segment = some kind ↔ (segment, kind) ∈ kinds := by
  constructor
  · intro found
    obtain ⟨before, after, split, -⟩ := List.lookup_eq_some_iff.mp found
    rw [split]
    exact List.mem_append_right _ List.mem_cons_self
  · intro member
    rcases mem_kinds.mp member with ⟨rfl, rfl⟩ | ⟨rfl, rfl⟩ | ⟨rfl, rfl⟩ <;> rfl

theorem lookup_kinds_eq_none {segment : List Char} :
    kinds.lookup segment = none ↔ ∀ kind, (segment, kind) ∉ kinds := by
  simp only [Option.eq_none_iff_forall_ne_some, ne_eq, lookup_kinds]

theorem kindOfSegments_cons (segment : List Char) (rest : List (List Char)) :
    kindOfSegments (segment :: rest) = (kinds.lookup segment).or (kindOfSegments rest) := by
  by_cases comment : segment = "comment".toList
  · subst comment
    rfl
  by_cases string : segment = "string".toList
  · subst string
    rfl
  by_cases regex : segment = "regex".toList
  · subst regex
    rfl
  have unnamed : kinds.lookup segment = none := by
    refine lookup_kinds_eq_none.mpr fun kind => ?_
    simp only [mem_kinds, comment, string, regex, false_and, or_false, not_false_eq_true]
  rw [unnamed, Option.none_or, kindOfSegments, if_neg comment, if_neg string, if_neg regex]

theorem kindOfSegments_eq_findSome? (parts : List (List Char)) :
    kindOfSegments parts = parts.findSome? fun segment => kinds.lookup segment := by
  induction parts with
  | nil => rfl
  | cons segment rest ih =>
    rw [kindOfSegments_cons, ih, List.findSome?_cons]
    cases kinds.lookup segment <;> rfl

theorem kindOfSegments_eq_some_iff {parts : List (List Char)} {kind : TokenKind} :
    kindOfSegments parts = some kind ↔ ∃ before segment after, parts = before ++ segment :: after ∧
      (segment, kind) ∈ kinds ∧ ∀ earlier ∈ before, ∀ k, (earlier, k) ∉ kinds := by
  simp only [kindOfSegments_eq_findSome?, List.findSome?_eq_some_iff, lookup_kinds,
    lookup_kinds_eq_none]

theorem kindOfScope_eq_some_iff {scope : String} {kind : TokenKind} :
    kindOfScope scope = some kind ↔ Tells scope kind := by
  unfold kindOfScope
  by_cases embedded : Embedded scope
  · rw [if_pos (List.isPrefixOf_iff_prefix.mpr embedded)]
    constructor
    · intro other
      cases other
      exact .embedded embedded
    · intro tells
      cases tells with
      | embedded => rfl
      | named plain => exact absurd embedded plain
  · rw [if_neg (mt List.isPrefixOf_iff_prefix.mp embedded), kindOfSegments_eq_some_iff]
    constructor
    · rintro ⟨before, segment, after, split, names, first⟩
      exact .named embedded split names first
    · intro tells
      cases tells with
      | embedded prefixed => exact absurd prefixed embedded
      | named _ split names first => exact ⟨_, _, _, split, names, first⟩

theorem told_kindOf (scopes : List String) : Told scopes (kindOf scopes) := by
  have silent {scope : String} (none : kindOfScope scope = none) (k : TokenKind) :
      ¬ Tells scope k := by
    intro tells
    rw [kindOfScope_eq_some_iff.mpr tells] at none
    cases none
  unfold kindOf
  cases found : scopes.reverse.findSome? kindOfScope with
  | none =>
    refine .nowhere fun scope member => silent ?_
    exact List.findSome?_eq_none_iff.mp found scope (List.mem_reverse.mpr member)
  | some kind =>
    obtain ⟨inner, scope, outer, split, tells, further⟩ := List.findSome?_eq_some_iff.mp found
    have around : scopes = outer.reverse ++ scope :: inner.reverse := by
      rw [← List.reverse_reverse scopes, split]
      simp
    refine .innermost around (kindOfScope_eq_some_iff.mp tells) fun x member => silent ?_
    exact further x (List.mem_reverse.mp member)

/-! ### The fields -/

open Attributes

/-- What a field holds for a color: its number, or 0 if there is none or it is above the limit. -/
inductive Numbered (s : Snapshot) (limit : UInt32) : Option Color → UInt32 → Prop where
  | default : s.Numbered limit none 0
  | number {c : Color} {id : Nat} {field : UInt32} : s.palette.idOf? c = some id → 1 ≤ id →
      id ≤ limit.toNat → field.toNat = id → s.Numbered limit (some c) field
  | large {c : Color} {id : Nat} : s.palette.idOf? c = some id → limit.toNat < id →
      s.Numbered limit (some c) 0

/-- The attributes are those of a stack of scopes: foreground, background and font style each come
from the first of its rules that has a color there or a font style at all. -/
structure Encodes (s : Snapshot) (scopes : List String) (language : UInt8) (a : Attributes) :
    Prop where
  language : a.language = language
  kind : Told scopes a.kind
  balanced : a.balanced = false
  fontStyle : a.fontStyle =
    (((s.rulesOf scopes).findSome? (·.fontStyle)).map FontStyle.ofText).getD .empty
  foreground : s.Numbered maxForeground
    ((s.rulesOf scopes).findSome? fun r => Rule.colorOf r.foreground) a.foreground
  background : s.Numbered maxBackground
    ((s.rulesOf scopes).findSome? fun r => Rule.colorOf r.background) a.background

theorem Derived.exists_idOf? {s : Snapshot} (derived : s.Derived) {r : Rule} {c : Color}
    (member : r ∈ s.theme.rules) (colored : c ∈ r.colors) :
    ∃ id, s.palette.idOf? c = some id ∧ 1 ≤ id ∧ id ≤ 2 ^ 32 := by
  cases derived with
  | blank => cases member
  | ofTheme theme version =>
    have used : c ∈ theme.rules.flatMap Rule.colors := List.mem_flatMap.mpr ⟨r, member, colored⟩
    obtain ⟨id, number, positive, -⟩ := Palette.idOf?_ofRules used
    exact ⟨id, number, positive, Palette.le_of_idOf? number⟩

/-- To seek a number is to seek a color and then its number, if every color has one. -/
theorem findSome?_idOf? {s : Snapshot} {text : Rule → Option String} {rules : List Rule}
    (numbered : ∀ r ∈ rules, ∀ c, Rule.colorOf (text r) = some c →
      ∃ id, s.palette.idOf? c = some id) :
    (rules.findSome? fun r => s.idOf? (text r)) =
      (rules.findSome? fun r => Rule.colorOf (text r)).bind s.palette.idOf? := by
  induction rules with
  | nil => rfl
  | cons r rest ih =>
    obtain ⟨first, others⟩ := List.forall_mem_cons.mp numbered
    rw [List.findSome?_cons, List.findSome?_cons, ih others]
    unfold idOf?
    cases colored : Rule.colorOf (text r) with
    | none => rfl
    | some c =>
      obtain ⟨id, number⟩ := first c colored
      simp only [Option.bind_some, number]

theorem Derived.numbered {s : Snapshot} (derived : s.Derived) {rules : List Rule}
    (known : rules ⊆ s.theme.rules) (limit : UInt32) {text : Rule → Option String}
    (colors : ∀ r c, Rule.colorOf (text r) = some c → c ∈ r.colors) :
    s.Numbered limit (rules.findSome? fun r => Rule.colorOf (text r))
      (fit limit ((rules.findSome? fun r => s.idOf? (text r)).getD 0).toUInt32) := by
  have number {r : Rule} {c : Color} (member : r ∈ rules)
      (colored : Rule.colorOf (text r) = some c) :=
    derived.exists_idOf? (known member) (colors r c colored)
  rw [findSome?_idOf? fun r member c colored => (number member colored).imp fun _ => And.left]
  cases found : rules.findSome? fun r => Rule.colorOf (text r) with
  | none =>
    have zero : fit limit 0 = 0 := ite_self 0
    exact zero ▸ .default
  | some c =>
    obtain ⟨r, member, colored⟩ := List.exists_of_findSome?_eq_some found
    obtain ⟨id, numbered, positive, small⟩ := number member colored
    rw [Option.bind_some, numbered, Option.getD_some]
    rcases Nat.lt_or_ge limit.toNat id with above | fits
    · rw [fit_of_lt above small]
      exact .large numbered above
    · exact .number numbered positive fits (toNat_fit_of_le fits)

/-- The style of a stack of scopes is what the first of its rules say, each field on its own, and a
single pass over the rules comes to the same. -/
theorem encodes_encodeScopes {s : Snapshot} (derived : s.Derived) (scopes : List String)
    (language : UInt8) :
    s.Encodes scopes language (s.encodeScopes scopes language) ∧
      s.encodeInOnePass scopes language = s.encodeScopes scopes language := by
  have known : s.rulesOf scopes ⊆ s.theme.rules := by
    rw [← matchingRules_eq]
    exact fun r => mem_rules_of_mem_matchingRules
  have few := fontStyle_bits_lt (s.rulesOf scopes)
  refine ⟨?_, encodeInOnePass_eq s scopes language⟩
  unfold encodeScopes
  rw [matchingRules_eq]
  exact {
    language := language_encode ..
    kind := by
      rw [kind_encode]
      exact told_kindOf scopes
    balanced := balanced_encode ..
    fontStyle := by
      rw [fontStyle_encode, FontStyle.ofBits_eq_iff.mpr few, List.map_findSome?]
      rfl
    foreground := by
      rw [foreground_encode _ _ _ _ _ few]
      exact derived.numbered known maxForeground Rule.mem_colors_foreground
    background := by
      rw [background_encode]
      exact derived.numbered known maxBackground Rule.mem_colors_background }

/-- A theme whose rules each say a part: an empty font style counts, a text that is no color does
not, and the second rule of a class is never asked. -/
def partialTheme : Theme :=
  .ofRules default false [
    { token := "", foreground := some "#D4D4D4", background := some "#1E1E1E",
      fontStyle := some "bold" },
    { token := "a", foreground := some "nope", fontStyle := some "" },
    { token := "a", foreground := some "#F00" },
    { token := "a.b", background := some "#00F" }] .empty

theorem encodes_encodeScopes_partialTheme :
    let s := ofTheme partialTheme 0
    let a := s.encodeScopes ["string.x", "a.b.c"] 7
    s.Derived ∧ s.Encodes ["string.x", "a.b.c"] 7 a ∧
      s.encodeInOnePass ["string.x", "a.b.c"] 7 = a ∧
      (a.kind, a.fontStyle, a.foreground, a.background) = (.string, .empty, 1, 4) := by
  intro s a
  have derived : s.Derived := .ofTheme partialTheme 0
  obtain ⟨encodes, pass⟩ := encodes_encodeScopes derived ["string.x", "a.b.c"] 7
  exact ⟨derived, encodes, pass, by decide +kernel⟩

end Snapshot

end TokenTheme
