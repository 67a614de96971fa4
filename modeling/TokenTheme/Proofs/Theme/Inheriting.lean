import Mathlib
import TokenTheme.Proofs.Theme.Numbering
/-!
# Rules that are inherited

A theme that inherits has the rules of its base palette behind its own. What is derived from its own
rules stays as it is (`extends_inherit`): in the palette, in the class map and among the rules of
classes the first of several rules wins, so rules at the end of the list only add to them.
-/
namespace TokenTheme

variable {rules extra : List Rule} {c : Color} {id : Nat}

namespace Palette

def added (rules extra : List Rule) : List Color :=
  ((extra.flatMap Rule.colors).removeAll (rules.flatMap Rule.colors)).eraseDups

theorem slots_append (rules extra : List Rule) :
    (ofRules (rules ++ extra)).slots = (ofRules rules).slots ++ (added rules extra).map some := by
  rw [slots_ofRules, slots_ofRules]
  unfold Rule.distinctColors added
  rw [List.flatMap_append, List.eraseDups_append, List.map_append]
  rfl

theorem mem_added : c ∈ added rules extra ↔
    (∃ r ∈ extra, c ∈ r.colors) ∧ ∀ r ∈ rules, c ∉ r.colors := by
  simp [added, List.removeAll, List.mem_flatMap]

theorem idOf?_append (number : (ofRules rules).idOf? c = some id) :
    (ofRules (rules ++ extra)).idOf? c = some id := by
  have held := getElem?_of_idOf? number
  have bound := (List.getElem?_eq_some_iff.mp held).1
  rw [idOf?_eq_some_iff (nodup_ofRules _), slots_append, List.getElem?_append_left bound]
  exact held

/-- A number that is new is behind all earlier ones, and so is its color. -/
theorem cases_idOf?_append (number : (ofRules (rules ++ extra)).idOf? c = some id) :
    (ofRules rules).idOf? c = some id ∨
      (ofRules rules).idOf? c = none ∧ (ofRules rules).length ≤ id ∧ ∃ r ∈ extra, c ∈ r.colors := by
  have held := getElem?_of_idOf? number
  rw [slots_append] at held
  rcases Nat.lt_or_ge id (ofRules rules).slots.length with early | late
  · rw [List.getElem?_append_left early] at held
    exact .inl ((idOf?_eq_some_iff (nodup_ofRules rules)).mpr held)
  · rw [List.getElem?_append_right late] at held
    obtain ⟨member, absent⟩ : (∃ r ∈ extra, c ∈ r.colors) ∧ ∀ r ∈ rules, c ∉ r.colors := by
      have later := List.mem_of_getElem? held
      rw [List.mem_map_of_injective (Option.some_injective _)] at later
      exact mem_added.mp later
    refine .inr ⟨List.idxOf?_eq_none_iff.mpr ?_, late, member⟩
    rw [slots_ofRules]
    simp only [List.mem_cons, reduceCtorEq, List.mem_map, Option.some.injEq, exists_eq_right,
      false_or, Rule.distinctColors, List.mem_eraseDups, List.mem_flatMap, not_exists, not_and]
    exact absent

end Palette

theorem ClassMap.get?_append (rules extra : List Rule) (c : Color) :
    (ofRules (rules ++ extra)).get? c = ((ofRules rules).get? c).or ((ofRules extra).get? c) := by
  rw [get?_ofRules, get?_ofRules, get?_ofRules, List.find?_append, Option.map_or]

namespace Snapshot

/-- A snapshot holds what another one holds, in the same places, and beyond that nothing but what
comes from further rules. -/
structure Extends (extra : List Rule) (s s' : Snapshot) : Prop where
  ids : ∀ c id, s.palette.idOf? c = some id → s'.palette.idOf? c = some id
  classes : ∀ c token, s.classMap.get? c = some token → s'.classMap.get? c = some token
  rules : ∀ token r, s.ruleFor? token = some r → s'.ruleFor? token = some r
  foreground : s'.theme.foreground = s.theme.foreground
  background : s'.theme.background = s.theme.background
  newIds : ∀ c id, s'.palette.idOf? c = some id → s.palette.idOf? c = some id ∨
    s.palette.idOf? c = none ∧ s.palette.length ≤ id ∧ ∃ r ∈ extra, c ∈ r.colors
  newClasses : ∀ c token, s'.classMap.get? c = some token → s.classMap.get? c = some token ∨
    s.classMap.get? c = none ∧ ∃ r : Rule, r.Claims extra c ∧ r.token = token
  newRules : ∀ token r, s'.ruleFor? token = some r → s.ruleFor? token = some r ∨
    s.ruleFor? token = none ∧ r ∈ extra
  known : s'.knownClasses = s.knownClasses ++ extra.map (·.token)

theorem extends_of_rules {theme theme' : Theme} (appended : theme'.rules = theme.rules ++ extra)
    (foreground : theme'.foreground = theme.foreground)
    (background : theme'.background = theme.background) (version version' : Nat) :
    (ofTheme theme version).Extends extra (ofTheme theme' version') := by
  have palette : (ofTheme theme' version').palette = .ofRules (theme.rules ++ extra) :=
    congrArg Palette.ofRules appended
  have classes (c : Color) : (ofTheme theme' version').classMap.get? c =
      ((ofTheme theme version).classMap.get? c).or ((ClassMap.ofRules extra).get? c) := by
    show (ClassMap.ofRules theme'.rules).get? c = _
    rw [appended]
    exact ClassMap.get?_append theme.rules extra c
  have ruleFor (token : String) : (ofTheme theme' version').ruleFor? token =
      ((ofTheme theme version).ruleFor? token).or (extra.find? (·.token = token)) := by
    show theme'.rules.find? _ = _
    rw [appended]
    exact List.find?_append
  refine {
    ids := fun c id number => ?_
    classes := fun c token held => ?_
    rules := fun token r used => ?_
    foreground := foreground
    background := background
    newIds := fun c id number => ?_
    newClasses := fun c token held => ?_
    newRules := fun token r used => ?_
    known := ?_ }
  · rw [palette]
    exact Palette.idOf?_append number
  · rw [classes, held, Option.some_or]
  · rw [ruleFor, used, Option.some_or]
  · rw [palette] at number
    exact Palette.cases_idOf?_append number
  · rw [classes] at held
    rcases Option.or_eq_some_iff.mp held with own | ⟨free, inherited⟩
    · exact .inl own
    · rw [ClassMap.get?_ofRules] at inherited
      obtain ⟨r, found, named⟩ := Option.map_eq_some_iff.mp inherited
      exact .inr ⟨free, r, Rule.claims_of_find? found, named⟩
  · rw [ruleFor] at used
    rcases Option.or_eq_some_iff.mp used with own | ⟨free, inherited⟩
    · exact .inl own
    · exact .inr ⟨free, List.mem_of_find?_eq_some inherited⟩
  · show theme'.rules.map (·.token) = _
    rw [appended, List.map_append]
    rfl

/-- Rules that stand behind those of a theme, such as the rules of the base that it inherits,
disturb nothing that is derived from its own. -/
theorem extends_inherit :
    (∀ (theme : Theme) (extra : List Rule) (version version' : Nat),
      (ofTheme theme version).Extends extra
        (ofTheme { theme with rules := theme.rules ++ extra } version')) ∧
    ∀ (t : EditorTheme) (version version' : Nat),
      (ofSource (.editor { t with inherit := false }) version).Extends t.base.rules
        (ofSource (.editor { t with inherit := true }) version') := by
  constructor
  · intro theme extra version version'
    have appended : { theme with rules := theme.rules ++ extra }.rules = theme.rules ++ extra := rfl
    exact extends_of_rules appended rfl rfl version version'
  · intro t version version'
    have appended : (Theme.ofEditor { t with inherit := true }).rules =
        (Theme.ofEditor { t with inherit := false }).rules ++ t.base.rules := rfl
    exact extends_of_rules appended rfl rfl version version'

end Snapshot

end TokenTheme
