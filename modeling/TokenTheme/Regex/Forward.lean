import TokenTheme.Regex.Match
/-!
# Patterns

A pattern is what an engine makes of a text. Its matches are ranges of the text that lie behind the
place where it is tried, and nothing else is known of it.

The expressions of this engine make such patterns. A matcher stays in its text and never goes back:
it hands on a place that is not before the one it was given, whatever it looks at on the way, and the
match is taken to begin in between.
-/
namespace TokenTheme.Regex

open Text (Cursor)

/-- What an engine makes of a pattern: the spans of the match that it finds if it tries the pattern
at a place, its own and then those of the groups. The match lies behind the place, but need not
begin there. -/
structure Pattern where
  matchAt? : Cursor → Option (List (Option Span))
  range : ∀ {c captures}, matchAt? c = some captures →
    ∃ d e groups, c.Reaches d ∧ d.Reaches e ∧ captures = some (span d e) :: groups

theorem reaches_of_pass {fold : Bool} {wanted : List Char} {c d : Cursor}
    (passed : pass fold wanted c = some d) : c.Reaches d := by
  induction wanted generalizing c with
  | nil =>
    cases passed
    exact .refl _
  | cons x rest ih =>
    unfold pass at passed
    cases next : c.next? with
    | none => simp [next] at passed
    | some found =>
      obtain ⟨y, e⟩ := found
      simp only [next] at passed
      have onward : pass fold rest e = some d := (Option.ite_none_right_eq_some.mp passed).2
      exact (Text.Cursor.reaches_of_next? next).trans (ih onward)

/-- A relation between an earlier and a later stage of a match. It holds if the places or the groups
have moved on; what becomes of the place where the match is taken to begin is left open. -/
structure Staged (R : Progress → Progress → Prop) : Prop where
  refl (p : Progress) : R p p
  trans {p q r : Progress} : R p q → R q r → R p r
  cursor {p : Progress} {d : Cursor} : p.cursor.Reaches d → R p { p with cursor := d }
  groups (p : Progress) (groups : List (Option (Cursor × Cursor))) : R p { p with groups }

/-- A matcher finds a match only by going on from what it leads to. -/
def Matcher.GoesOn (R : Progress → Progress → Prop) (m : Matcher) : Prop :=
  ∀ (p : Progress) (k : Continuation) (out : Progress), m p k = some out →
    ∃ q : Progress, R p q ∧ k q = some out

theorem either_some {first : Bool} {one other : Unit → Option Progress} {out : Progress}
    (found : either first one other = some out) : one () = some out ∨ other () = some out := by
  unfold either at found
  split at found
  · cases ones : one () with
    | none => simp_all
    | some q => simp_all
  · cases others : other () with
    | none => simp_all
    | some q => simp_all

section Rounds

variable {R : Progress → Progress → Prop} (staged : Staged R) {body : Matcher} (goes : body.GoesOn R)
include staged goes

theorem goesOn_exactly (n : Nat) : Matcher.GoesOn R (exactly body n) := by
  induction n with
  | zero => exact fun p k out found => ⟨p, staged.refl p, found⟩
  | succ n ih =>
    intro p k out found
    obtain ⟨q, once, rest⟩ := goes p _ out found
    obtain ⟨r, more, goal⟩ := ih q k out rest
    exact ⟨r, staged.trans once more, goal⟩

theorem goesOn_atMost (greedy : Bool) (n : Nat) : Matcher.GoesOn R (atMost body greedy n) := by
  induction n with
  | zero => exact fun p k out found => ⟨p, staged.refl p, found⟩
  | succ n ih =>
    intro p k out found
    rcases either_some found with round | stop
    · obtain ⟨q, once, rest⟩ := goes p _ out round
      obtain ⟨r, more, goal⟩ := ih q k out rest
      exact ⟨r, staged.trans once more, goal⟩
    · exact ⟨p, staged.refl p, stop⟩

theorem goesOn_many (greedy : Bool) (fuel : Nat) : Matcher.GoesOn R (many body greedy fuel) := by
  induction fuel with
  | zero => exact fun p k out found => ⟨p, staged.refl p, found⟩
  | succ n ih =>
    intro p k out found
    rcases either_some found with round | stop
    · obtain ⟨q, once, rest⟩ := goes p _ out round
      split at rest
      · exact ⟨q, once, rest⟩
      · obtain ⟨r, more, goal⟩ := ih q k out rest
        exact ⟨r, staged.trans once more, goal⟩
    · exact ⟨p, staged.refl p, stop⟩

end Rounds

/-- Whether a match may be taken to begin elsewhere than where it was tried. What an expression looks
at ahead or behind has no say in this. -/
def keeps : Regex → Bool
  | .keep => true
  | .seq a b | .alt a b => keeps a || keeps b
  | .group _ r | .times _ r | .upTo _ _ r | .star _ r | .atomic r => keeps r
  | .ahead .. | .behind .. | .empty | .set _ | .again .. | .place _ => false

/-- An expression goes on as its parts do: one that looks ahead or behind returns to where it stood. -/
theorem goesOn_exec {R : Progress → Progress → Prop} (staged : Staged R) {r : Regex}
    (kept : keeps r = true → ∀ p : Progress, R p { p with kept := p.cursor }) :
    (exec r).GoesOn R := by
  induction r with
  | empty => exact fun p k out found => ⟨p, staged.refl p, found⟩
  | set s =>
    intro p k out found
    unfold exec at found
    split at found
    · rename_i next
      exact ⟨_, staged.cursor (Text.Cursor.reaches_of_next? next),
        (Option.ite_none_right_eq_some.mp found).2⟩
    · cases found
  | seq a b first second =>
    intro p k out found
    obtain ⟨q, once, rest⟩ := first (fun here => kept (by simp [keeps, here])) p _ out found
    obtain ⟨r, more, goal⟩ := second (fun here => kept (by simp [keeps, here])) q k out rest
    exact ⟨r, staged.trans once more, goal⟩
  | alt a b first second =>
    intro p k out found
    have chosen : either true (fun _ => exec a p k) (fun _ => exec b p k) = some out := found
    rcases either_some chosen with one | other
    · exact first (fun here => kept (by simp [keeps, here])) p k out one
    · exact second (fun here => kept (by simp [keeps, here])) p k out other
  | group number r body =>
    intro p k out found
    obtain ⟨q, onward, goal⟩ := body kept p _ out found
    exact ⟨_, staged.trans onward (staged.groups q _), goal⟩
  | times count r body => exact goesOn_exactly staged (body kept) count
  | upTo count greedy r body => exact goesOn_atMost staged (body kept) greedy count
  | star greedy r body => exact fun p => goesOn_many staged (body kept) greedy _ p
  | atomic r body =>
    intro p k out found
    unfold exec at found
    split at found
    · rename_i q matched
      -- The continuation of the body is `some`, so what it leads to is what it hands on.
      obtain ⟨q', onward, same⟩ := body kept p some q matched
      cases same
      exact ⟨q, onward, found⟩
    · cases found
  | ahead wanted r body =>
    intro p k out found
    unfold exec at found
    split at found
    · exact ⟨_, staged.groups p _, (Option.ite_none_right_eq_some.mp found).2⟩
    · exact ⟨p, staged.refl p, (Option.ite_none_left_eq_some.mp found).2⟩
  | behind wanted r body =>
    -- The body may start anywhere before this place, but the rest goes on from here.
    intro p k out found
    simp only [exec] at found
    split at found
    · exact ⟨_, staged.groups p _, (Option.ite_none_right_eq_some.mp found).2⟩
    · exact ⟨p, staged.refl p, (Option.ite_none_left_eq_some.mp found).2⟩
  | again fold number =>
    intro p k out found
    unfold exec at found
    split at found
    · split at found
      · rename_i passed
        exact ⟨_, staged.cursor (reaches_of_pass passed), found⟩
      · cases found
    · cases found
  | place condition =>
    intro p k out found
    exact ⟨p, staged.refl p, (Option.ite_none_right_eq_some.mp found).2⟩
  | keep => exact fun p k out found => ⟨_, kept rfl p, found⟩

/-- The place has moved on, and the place where the match is taken to begin is not left behind it. -/
structure Progress.Onward (p q : Progress) : Prop where
  cursor : p.cursor.Reaches q.cursor
  kept : p.kept.Reaches p.cursor → p.kept.Reaches q.kept ∧ q.kept.Reaches q.cursor

theorem Progress.staged_onward : Staged Progress.Onward where
  refl p := ⟨.refl _, fun begun => ⟨.refl _, begun⟩⟩
  trans first second := ⟨first.cursor.trans second.cursor, fun begun => by
    obtain ⟨later, between⟩ := first.kept begun
    obtain ⟨later', between'⟩ := second.kept between
    exact ⟨later.trans later', between'⟩⟩
  cursor reached := ⟨reached, fun begun => ⟨.refl _, begun.trans reached⟩⟩
  groups p _ := ⟨.refl _, fun begun => ⟨.refl _, begun⟩⟩

theorem Progress.onward_keep (p : Progress) : p.Onward { p with kept := p.cursor } :=
  ⟨.refl _, fun begun => ⟨begun, .refl _⟩⟩

namespace Expression

/-- What comes of a match that is tried at a place. -/
def begin (e : Expression) (c : Cursor) : Option Progress :=
  exec e.regex ⟨c, c, List.replicate e.groups none⟩ some

theorem begin_some {e : Expression} {c : Cursor} {q : Progress} (matched : e.begin c = some q) :
    c.Reaches q.kept ∧ q.kept.Reaches q.cursor := by
  obtain ⟨q', onward, same⟩ :=
    goesOn_exec Progress.staged_onward (fun _ => Progress.onward_keep) _ some q matched
  cases same
  exact onward.kept (.refl c)

theorem begin_plain {e : Expression} (plain : keeps e.regex = false) {c : Cursor} {q : Progress}
    (matched : e.begin c = some q) : q.kept = c := by
  have staged : Staged fun p q => q.kept = p.kept :=
    ⟨fun _ => rfl, fun first second => second.trans first, fun _ => rfl, fun _ _ => rfl⟩
  have kept (here : keeps e.regex = true) (p : Progress) : p.cursor = p.kept := by
    rw [plain] at here
    cases here
  obtain ⟨q', same, out⟩ := goesOn_exec staged kept _ some q matched
  cases out
  exact same

def toPattern (e : Expression) : Pattern where
  matchAt? c := (e.begin c).map fun q =>
    some (span q.kept q.cursor) :: q.groups.map (·.map fun g => span g.1 g.2)
  range {c captures} found := by
    obtain ⟨q, matched, rfl⟩ := Option.map_eq_some_iff.mp found
    obtain ⟨later, between⟩ := begin_some matched
    exact ⟨q.kept, q.cursor, _, later, between, rfl⟩

end Expression

namespace Pattern

instance : Inhabited Pattern := ⟨Expression.toPattern default⟩

def ofText (text : String) : Except PatternError Pattern :=
  (Expression.ofText text).map Expression.toPattern

end Pattern

end TokenTheme.Regex
