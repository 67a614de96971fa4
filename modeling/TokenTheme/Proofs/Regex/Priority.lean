import Mathlib
import TokenTheme.Proofs.Regex.Search
/-!
# Several patterns and each one alone

A scanner for several patterns finds nothing that scanners for each of them alone do not find. Of
what these find it takes the match from the first place where one was tried with success, and of
several from one place the one of the pattern that stands first (`find_leads`). As a rule that place
is where the match starts; a pattern with `\K` in it has its match start later, and then the first
match by its start is not the one that is found (`find_misleads`).
-/
namespace TokenTheme

namespace Text.Cursor

variable {α : Type} {f : Cursor → Option α} {c d : Cursor}

theorem offset_lt_of_next? {x : Char} (next : c.next? = some (x, d)) : c.offset < d.offset := by
  obtain ⟨before, after, offset, counted⟩ := c
  cases after with
  | nil => cases next
  | cons y rest =>
    cases next
    exact Nat.lt_add_of_pos_right x.utf8Size_pos

theorem Reaches.eq_or_lt (reached : c.Reaches d) : d = c ∨ c.offset < d.offset := by
  rcases reached.cases_next with same | ⟨x, e, next, onward⟩
  · exact .inl same
  · exact .inr (Nat.lt_of_lt_of_le (offset_lt_of_next? next) onward.offset)

theorem eq_of_offset (text : d.text = c.text) (offset : d.offset = c.offset) : d = c := by
  rcases Reaches.eq_or_lt ⟨text, Nat.le_of_eq offset.symm⟩ with same | later
  · exact same
  · omega

theorem firstSome_eq_some {a : α} (found : c.firstSome f = some a) :
    ∃ d, c.Reaches d ∧ f d = some a ∧ ∀ e, c.Reaches e → e.offset < d.offset → f e = none := by
  fun_induction firstSome f c with
  | case1 c b here =>
    cases found
    exact ⟨c, .refl c, here, fun e reached earlier => absurd reached.offset (by omega)⟩
  | case2 c absent atEnd => cases found
  | case3 c absent x d next ih =>
    obtain ⟨e, further, there, before⟩ := ih found
    refine ⟨e, (reaches_of_next? next).trans further, there, ?_⟩
    intro e' reached earlier
    rcases reached.cases_next with rfl | ⟨x', d', next', onward⟩
    · exact absent
    · cases next.symm.trans next'
      exact before e' onward earlier

structure IsFrom (text : List Char) (start : Nat) (c : Cursor) : Prop where
  text : c.text = text
  start_le : start ≤ c.offset

theorem reaches_iff_of_seek? {text : List Char} {start : Nat}
    (sought : (Cursor.start text).seek? start = some c) : c.Reaches d ↔ d.IsFrom text start := by
  obtain ⟨entered, far⟩ := seek?_some sought
  constructor
  · intro reached
    exact ⟨(entered.trans reached).text, Nat.le_trans far reached.offset⟩
  · rintro ⟨inText, start_le⟩
    have reached : (Cursor.start text).Reaches d := ⟨inText, Nat.zero_le _⟩
    obtain ⟨c', sought', onward⟩ := seek?_first reached start_le
    cases sought.symm.trans sought'
    exact onward

end Text.Cursor

namespace Regex

open Text (Cursor)

/-- A pattern whose matches start where it is tried. -/
def Pattern.Plain (p : Pattern) : Prop :=
  ∀ c captures, p.matchAt? c = some captures →
    ∃ d groups, captures = some (Regex.span c d) :: groups

theorem Expression.plain_toPattern {e : Expression} (plain : keeps e.regex = false) :
    e.toPattern.Plain := by
  intro c captures found
  obtain ⟨q, matched, rfl⟩ := Option.map_eq_some_iff.mp found
  rw [begin_plain plain matched]
  exact ⟨q.cursor, _, rfl⟩

namespace Scanner

variable {s : Scanner} {text : String} {start : Nat} {m m' : Match} {c d : Cursor} {p : Pattern}

theorem firstAt_eq_some {index : Nat} {patterns : List Pattern}
    (found : firstAt index patterns c = some m) :
    ∃ k p, m.index = index + k ∧ patterns[k]? = some p ∧ p.matchAt? c = some m.captures ∧
      ∀ j q, patterns[j]? = some q → (q.matchAt? c).isSome → k ≤ j := by
  induction patterns generalizing index with
  | nil => cases found
  | cons p rest ih =>
    unfold firstAt at found
    split at found
    · rename_i captures matched
      cases found
      exact ⟨0, p, rfl, rfl, matched, fun j q _ _ => Nat.zero_le j⟩
    · rename_i unmatched
      obtain ⟨k, q, counted, listed, matched, first⟩ := ih found
      refine ⟨k + 1, q, by omega, listed, matched, ?_⟩
      intro j q' listed' matched'
      cases j with
      | zero =>
        cases listed'
        simp [unmatched] at matched'
      | succ j => exact Nat.succ_le_succ (first j q' listed' matched')

/-- The scanner tries its patterns at one place after the other from byte `start` on, and this place
is the first one where any of them matches. -/
structure FoundAt (s : Scanner) (text : String) (start : Nat) (c : Cursor) (m : Match) : Prop where
  isFrom : c.IsFrom text.toList start
  matched : firstAt 0 s.patterns c = some m
  before : ∀ d : Cursor, d.IsFrom text.toList start → d.offset < c.offset →
    firstAt 0 s.patterns d = none

namespace FoundAt

theorem unique (left : s.FoundAt text start c m) (right : s.FoundAt text start d m') :
    d = c ∧ m' = m := by
  have offset : d.offset = c.offset := by
    rcases Nat.lt_trichotomy c.offset d.offset with later | same | earlier
    · cases (right.before c left.isFrom later).symm.trans left.matched
    · exact same.symm
    · cases (left.before d right.isFrom earlier).symm.trans right.matched
  have place := Cursor.eq_of_offset (right.isFrom.text.trans left.isFrom.text.symm) offset
  subst place
  exact ⟨rfl, Option.some.inj (right.matched.symm.trans left.matched)⟩

theorem exists_of_find (found : s.find text start = some m) : ∃ c, s.FoundAt text start c m := by
  obtain ⟨first, sought, found⟩ := Option.bind_eq_some_iff.mp found
  obtain ⟨c, reached, here, before⟩ := Cursor.firstSome_eq_some found
  have reaches (d : Cursor) : first.Reaches d ↔ d.IsFrom text.toList start :=
    Cursor.reaches_iff_of_seek? sought
  exact ⟨c, (reaches c).mp reached, here,
    fun d isFrom earlier => before d ((reaches d).mpr isFrom) earlier⟩

theorem find (place : s.FoundAt text start c m) : s.find text start = some m := by
  obtain ⟨k, p, -, listed, matched, -⟩ := firstAt_eq_some place.matched
  have some_ : (s.find text start).isSome := find_isSome_iff.mpr
    ⟨c, place.isFrom.text, place.isFrom.start_le, p, List.mem_of_getElem? listed,
      Option.isSome_of_eq_some matched⟩
  obtain ⟨m', found⟩ := Option.isSome_iff_exists.mp some_
  obtain ⟨d, place'⟩ := exists_of_find found
  rw [found, (place.unique place').2]

theorem unmatched (place : s.FoundAt text start c m) (member : p ∈ s.patterns)
    (isFrom : d.IsFrom text.toList start) (earlier : d.offset < c.offset) :
    p.matchAt? d = none := by
  by_contra matched
  have some_ : (firstAt 0 s.patterns d).isSome :=
    firstAt_isSome_iff.mpr ⟨p, member, Option.isSome_iff_ne_none.mpr matched⟩
  rw [place.before d isFrom earlier] at some_
  cases some_

theorem start_eq (place : s.FoundAt text start c m) (plain : ∀ p ∈ s.patterns, p.Plain) :
    m.span.start = c.offset := by
  obtain ⟨k, p, -, listed, matched, -⟩ := firstAt_eq_some place.matched
  obtain ⟨d, groups, captures⟩ := plain p (List.mem_of_getElem? listed) c _ matched
  rw [Match.span, captures]
  rfl

end FoundAt

def alone (p : Pattern) : Scanner := ⟨[p]⟩

theorem foundAt_alone_iff :
    (alone p).FoundAt text start c m ↔
      c.IsFrom text.toList start ∧ m.index = 0 ∧ p.matchAt? c = some m.captures ∧
        ∀ d : Cursor, d.IsFrom text.toList start → d.offset < c.offset → p.matchAt? d = none := by
  constructor
  · intro place
    obtain ⟨k, q, index, listed, matched, -⟩ := firstAt_eq_some place.matched
    have only : k = 0 := by
      have bound := (List.getElem?_eq_some_iff.mp listed).1
      exact Nat.lt_one_iff.mp bound
    subst only
    cases listed
    exact ⟨place.isFrom, index, matched,
      fun d isFrom earlier => place.unmatched (List.mem_singleton_self _) isFrom earlier⟩
  · rintro ⟨isFrom, index, matched, before⟩
    obtain ⟨i, captures⟩ := m
    cases index
    refine ⟨isFrom, by simp [firstAt, alone, matched], fun d isFrom' earlier => ?_⟩
    simp [firstAt, alone, before d isFrom' earlier]

/-! ### The scanner for several patterns -/

/-- A match comes from place `c` and is the first of those that scanners for one pattern each find: it
is the one of the scanner of its index, and every other scanner finds its own at a later place, or at
the same place with an index that is not lower. -/
structure Leads (singles : List Scanner) (text : String) (start : Nat) (c : Cursor) (m : Match) :
    Prop where
  own : ∃ single, singles[m.index]? = some single ∧ single.FoundAt text start c ⟨0, m.captures⟩
  first : ∀ (j : Nat) (other : Scanner) (d : Cursor) (m' : Match), singles[j]? = some other →
    other.FoundAt text start d m' → c.offset < d.offset ∨ c.offset = d.offset ∧ m.index ≤ j

/-- A match is the first by its start of what scanners for one pattern each have found, and of several
with one start it is the one with the lowest index. -/
structure LeadsByStart (m : Match) (found : List (Option Match)) : Prop where
  own : found[m.index]? = some (some ⟨0, m.captures⟩)
  first : ∀ j m', found[j]? = some (some m') →
    m.span.start < m'.span.start ∨ m.span.start = m'.span.start ∧ m.index ≤ j

theorem LeadsByStart.unique {found : List (Option Match)} (left : LeadsByStart m found)
    (right : LeadsByStart m' found) : m' = m := by
  have index : m'.index = m.index := by
    have below := left.first m'.index _ right.own
    have above := right.first m.index _ left.own
    simp only [Match.span] at below above
    omega
  have captures := right.own
  rw [index, left.own] at captures
  obtain ⟨i, spans⟩ := m
  obtain ⟨i', spans'⟩ := m'
  simp_all

theorem Leads.unique {singles : List Scanner} (left : Leads singles text start c m)
    (right : Leads singles text start d m') : m' = m := by
  obtain ⟨single, listed, place⟩ := left.own
  obtain ⟨single', listed', place'⟩ := right.own
  have index : m'.index = m.index := by
    have below := left.first m'.index single' d _ listed' place'
    have above := right.first m.index single c _ listed place
    omega
  rw [index] at listed'
  cases listed.symm.trans listed'
  obtain ⟨-, same⟩ := place.unique place'
  obtain ⟨i, spans⟩ := m
  obtain ⟨i', spans'⟩ := m'
  simp_all

theorem FoundAt.leads (place : s.FoundAt text start c m) :
    Leads (s.patterns.map alone) text start c m := by
  obtain ⟨k, p, counted, listed, matched, lowest⟩ := firstAt_eq_some place.matched
  have index : m.index = k := by omega
  subst index
  constructor
  · refine ⟨alone p, by rw [List.getElem?_map, listed, Option.map_some], ?_⟩
    exact foundAt_alone_iff.mpr ⟨place.isFrom, rfl, matched,
      fun d isFrom earlier => place.unmatched (List.mem_of_getElem? listed) isFrom earlier⟩
  · intro j other d m' there place'
    rw [List.getElem?_map, Option.map_eq_some_iff] at there
    obtain ⟨q, listed', rfl⟩ := there
    obtain ⟨isFrom, -, matched', -⟩ := foundAt_alone_iff.mp place'
    rcases Nat.lt_trichotomy c.offset d.offset with later | same | earlier
    · exact .inl later
    · cases Cursor.eq_of_offset (isFrom.text.trans place.isFrom.text.symm) same.symm
      exact .inr ⟨rfl, lowest j q listed' (Option.isSome_of_eq_some matched')⟩
    · have none_ := place.unmatched (List.mem_of_getElem? listed') isFrom earlier
      cases none_.symm.trans matched'

/-- Where each match starts at its place, the first place is the first start. -/
theorem Leads.leadsByStart {singles : List Scanner} (leads : Leads singles text start c m)
    (plain : ∀ single ∈ singles, ∀ p ∈ single.patterns, p.Plain) :
    LeadsByStart m (singles.map fun single => single.find text start) := by
  obtain ⟨single, listed, place⟩ := leads.own
  have here : m.span.start = c.offset :=
    place.start_eq (plain single (List.mem_of_getElem? listed))
  constructor
  · rw [List.getElem?_map, listed, Option.map_some, place.find]
  · intro j m' there
    rw [List.getElem?_map, Option.map_eq_some_iff] at there
    obtain ⟨other, listed', found⟩ := there
    obtain ⟨d, place'⟩ := FoundAt.exists_of_find found
    rw [here, place'.start_eq (plain other (List.mem_of_getElem? listed'))]
    exact leads.first j other d m' listed' place'

section Texts

variable {ε : Type} {read : String → Except ε Pattern} {texts : List String}
  {singles : List Scanner}

theorem ofTexts_of_singles (valid : texts.mapM (fun t => ofTexts read [t]) = .ok singles) :
    ∃ s, ofTexts read texts = .ok s ∧ singles = s.patterns.map alone := by
  induction texts generalizing singles with
  | nil =>
    cases valid
    exact ⟨⟨[]⟩, rfl, rfl⟩
  | cons t rest ih =>
    rw [List.mapM_cons] at valid
    obtain ⟨single, one, valid⟩ := bind_ok valid
    obtain ⟨others, each, valid⟩ := bind_ok valid
    cases valid
    obtain ⟨s, together, rfl⟩ := ih each
    obtain ⟨patterns, made, rfl⟩ := map_ok together
    obtain ⟨pattern, madeOne, rfl⟩ := map_ok one
    rw [List.mapM_cons] at madeOne
    obtain ⟨p, first, madeOne⟩ := bind_ok madeOne
    cases madeOne
    refine ⟨⟨p :: patterns⟩, ?_, rfl⟩
    unfold ofTexts
    rw [List.mapM_cons, first, made]
    rfl

theorem find_eq_none_iff_alone :
    s.find text start = none ↔ ∀ p ∈ s.patterns, (alone p).find text start = none := by
  simp only [← Option.not_isSome_iff_eq_none, find_isSome_iff]
  constructor
  · rintro nothing p member ⟨c, inText, far, p', only, matched⟩
    cases List.mem_singleton.mp only
    exact nothing ⟨c, inText, far, p, member, matched⟩
  · rintro nothing ⟨c, inText, far, p, member, matched⟩
    exact nothing p member ⟨c, inText, far, p, List.mem_singleton_self p, matched⟩

/-- Whatever engine reads the patterns, a scanner for several of them agrees with the scanners for
each. It finds nothing if and only if none of these does, and otherwise what one of them finds at the
first place, which lies in the text from the start of the search on. Behind the end of the text, or
without patterns, there is nothing. If the patterns match where they are tried then the first place is
the first start. -/
theorem find_leads (valid : texts.mapM (fun t => ofTexts read [t]) = .ok singles) :
    ∃ s, ofTexts read texts = .ok s ∧ ∀ (text : String) (start : Nat),
      let found := singles.map fun single => single.find text start
      (s.find text start = none ↔ ∀ f ∈ found, f = none) ∧
        (∀ m, s.find text start = some m ↔ ∃ c, Leads singles text start c m) ∧
        (∀ m, s.find text start = some m → start ≤ m.span.start ∧ m.span.start ≤ m.span.stop ∧
          m.span.stop ≤ text.utf8ByteSize) ∧
        (text.utf8ByteSize < start ∨ texts = [] → s.find text start = none) ∧
        ((∀ single ∈ singles, ∀ p ∈ single.patterns, p.Plain) →
          ∀ m, s.find text start = some m ↔ LeadsByStart m found) := by
  obtain ⟨s, together, rfl⟩ := ofTexts_of_singles valid
  refine ⟨s, together, fun text start => ?_⟩
  intro found
  have each : found = s.patterns.map fun p => (alone p).find text start := List.map_map
  have nothing : s.find text start = none ↔ ∀ f ∈ found, f = none := by
    rw [each, List.forall_mem_map]
    exact find_eq_none_iff_alone
  have leads {m : Match} (result : s.find text start = some m) :
      ∃ c, Leads (s.patterns.map alone) text start c m := by
    obtain ⟨c, place⟩ := FoundAt.exists_of_find result
    exact ⟨c, place.leads⟩
  refine ⟨nothing, fun m => ⟨leads, ?_⟩, fun m result => (find_some result).2, ?_, ?_⟩
  · rintro ⟨c, leads'⟩
    -- The scanner that leads finds something, so this one does, and it is the only match that leads.
    cases result : s.find text start with
    | none =>
      obtain ⟨single, listed, place⟩ := leads'.own
      cases (nothing.mp result _ (List.mem_map.mpr ⟨single, List.mem_of_getElem? listed, rfl⟩)).symm.trans
        place.find
    | some m' =>
      obtain ⟨c', leads''⟩ := leads result
      rw [leads'.unique leads'']
  · intro hopeless
    cases result : s.find text start with
    | none => rfl
    | some m =>
      obtain ⟨bound, low, ordered, high⟩ := find_some result
      rcases hopeless with behind | rfl
      · omega
      · rw [length_ofTexts together] at bound
        cases bound
  · intro plain m
    have byStart {m : Match} (result : s.find text start = some m) : LeadsByStart m found := by
      obtain ⟨c, leads'⟩ := leads result
      exact leads'.leadsByStart plain
    refine ⟨byStart, fun first => ?_⟩
    cases result : s.find text start with
    | none => cases nothing.mp result _ (List.mem_of_getElem? first.own)
    | some m' => rw [first.unique (byStart result)]

end Texts

/-! ### Texts as this engine reads them -/

/-- A text that is no pattern, or one whose matches start where it is tried. -/
def keepless (text : String) : Bool :=
  (Expression.ofText text).toOption.all fun e => !keeps e.regex

theorem plain_of_keepless {texts : List String} {singles : List Scanner}
    (valid : texts.mapM (fun t => ofTexts Pattern.ofText [t]) = .ok singles)
    (all : ∀ t ∈ texts, keepless t) : ∀ single ∈ singles, ∀ p ∈ single.patterns, p.Plain := by
  obtain ⟨s, together, rfl⟩ := ofTexts_of_singles valid
  obtain ⟨patterns, made, rfl⟩ := map_ok together
  rintro single member p only
  obtain ⟨p', listed, rfl⟩ := List.mem_map.mp member
  cases List.mem_singleton.mp only
  obtain ⟨i, found⟩ := List.mem_iff_getElem?.mp listed
  rcases getElem?_of_mapM_ok made i with ⟨-, absent⟩ | ⟨t, p', text, pattern, read⟩
  · cases absent.symm.trans found
  · cases pattern.symm.trans found
    obtain ⟨e, parsed, rfl⟩ := map_ok read
    have plain := all t (List.mem_of_getElem? text)
    rw [keepless, parsed] at plain
    exact Expression.plain_toPattern (by simpa [Except.toOption] using plain)

/-- Two patterns match at one place and the third one nowhere. -/
theorem find_leads_words :
    let texts := ["\\b(function|return)\\b", "[a-z]+", "\\(|\\)"]
    let text := "function x(y) {return y}"
    ∃ singles s, texts.mapM (fun t => ofTexts Pattern.ofText [t]) = .ok singles ∧
      ofTexts Pattern.ofText texts = .ok s ∧
      (∀ single ∈ singles, ∀ p ∈ single.patterns, p.Plain) ∧
      singles.map (fun single => single.find text 13) =
        [some ⟨0, [some ⟨15, 21⟩, some ⟨15, 21⟩]⟩, some ⟨0, [some ⟨15, 21⟩]⟩, none] ∧
      s.find text 13 = some ⟨0, [some ⟨15, 21⟩, some ⟨15, 21⟩]⟩ ∧
      s.find text 25 = none := by
  intro texts text
  obtain ⟨singles, valid, found⟩ := exists_ok_of_toOption_map
    (x := texts.mapM fun t => ofTexts Pattern.ofText [t])
    (f := fun singles => singles.map fun single => single.find text 13)
    (b := [some ⟨0, [some ⟨15, 21⟩, some ⟨15, 21⟩]⟩, some ⟨0, [some ⟨15, 21⟩]⟩, none])
    (by decide +kernel)
  have plain := plain_of_keepless valid (by decide +kernel)
  obtain ⟨s, together, agrees⟩ := find_leads valid
  refine ⟨singles, s, valid, together, plain, found, ?_, ?_⟩
  · obtain ⟨-, -, -, -, byStart⟩ := agrees text 13
    rw [byStart plain, found]
    refine ⟨rfl, ?_⟩
    rintro (_ | _ | _ | j) m' there <;> cases there
    · exact .inr ⟨rfl, Nat.le_refl 0⟩
    · exact .inr ⟨rfl, Nat.zero_le 1⟩
  · obtain ⟨-, -, -, hopeless, -⟩ := agrees text 25
    exact hopeless (.inl (by decide))

/-- The second pattern matches from the first place, but its match is taken to begin behind the one of
the first pattern. It is what the two patterns together find. -/
theorem find_misleads :
    let texts := ["b", "ab\\Kc"]
    ∃ singles s, texts.mapM (fun t => ofTexts Pattern.ofText [t]) = .ok singles ∧
      ofTexts Pattern.ofText texts = .ok s ∧
      singles.map (fun single => single.find "abc" 0) =
        [some ⟨0, [some ⟨1, 2⟩]⟩, some ⟨0, [some ⟨2, 3⟩]⟩] ∧
      s.find "abc" 0 = some ⟨1, [some ⟨2, 3⟩]⟩ ∧
      ¬ ∀ m, s.find "abc" 0 = some m ↔
        LeadsByStart m (singles.map fun single => single.find "abc" 0) := by
  intro texts
  obtain ⟨singles, valid, each⟩ := exists_ok_of_toOption_map
    (x := texts.mapM fun t => ofTexts Pattern.ofText [t])
    (f := fun singles => singles.map fun single => single.find "abc" 0)
    (b := [some ⟨0, [some ⟨1, 2⟩]⟩, some ⟨0, [some ⟨2, 3⟩]⟩]) (by decide +kernel)
  obtain ⟨s, together, found⟩ := exists_ok_of_toOption_map
    (x := ofTexts Pattern.ofText texts) (f := fun s => s.find "abc" 0)
    (b := some ⟨1, [some ⟨2, 3⟩]⟩) (by decide +kernel)
  refine ⟨singles, s, valid, together, each, found, fun agrees => ?_⟩
  have leads := (agrees _).mp found
  rw [each] at leads
  -- The other scanner has found something that starts earlier.
  have start := leads.first 0 ⟨0, [some ⟨1, 2⟩]⟩ rfl
  rcases start with later | ⟨same, -⟩
  · exact absurd later (by decide)
  · exact absurd same (by decide)

end Scanner

end Regex

end TokenTheme
