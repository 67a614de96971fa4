import Mathlib
import TokenTheme.Proofs.Scope
import TokenTheme.Proofs.Theme.Reading
import TokenTheme.Proofs.Theme.Selectors
import TokenTheme.Theme.Snapshot
/-!
# Listed scopes and joined scopes

The scopes of an entry may be given as a list of texts or as one text, with commas between them.
Both ways the entry has the same selectors, so the theme is converted to the same rules
(`ofTokenColors_joined`). This is said of the theme as it is written: of every value that is read as
a token color theme, whether its records stand in objects or in arrays.
-/
namespace TokenTheme

open Json Json.Shape

namespace TokenColor

def withScope (scope : Json) : Json → Json
  | .object members => .object (setMember "scope" scope members)
  | .array [] => .array [.null, scope]
  | .array (name :: rest) => .array (name :: scope :: rest.drop 1)
  | j => j

theorem decode?_withScope (scope entry : Json) : shape.decode? (withScope scope entry) =
    (shape.decode? entry).map fun t => { t with scope := scopesOf scope } := by
  cases entry with
  | object members =>
    refine decode?_of_once (h := Option.map _) rfl once_setMember fun once => ?_
    show shape.decode? (.object (setMember "scope" scope members)) =
      (shape.decode? (.object members)).map _
    rw [decode?_object (once_setMember.mpr once), decode?_object once, Option.map_map]
    simp only [textOf, Shape.optional, lookup_setMember]
    rfl
  | array items =>
    rcases items with _ | ⟨name, _ | ⟨old, _ | ⟨settings, _ | ⟨more, rest⟩⟩⟩⟩
    · rfl
    · rfl
    · rfl
    · show shape.decode? (.array [name, scope, settings]) = _
      rw [decode?_array, decode?_array, Option.map_map]
      rfl
    · show shape.decode? (.array (name :: scope :: settings :: more :: rest)) = _
      rw [decode?_array, decode?_array]
      rfl
  | _ => rfl

end TokenColor

namespace TokenColorTheme

def alterEntry (f : Json → Json) (i : Nat) : Json → Json
  | .array items => (Json.array items).alter f [.item 3, .item i]
  | j => j.alter f [.member "tokenColors", .item i]

variable {f : Json → Json} {g : TokenColor → TokenColor}

theorem decode?_alterEntry
    (each : ∀ k, TokenColor.shape.decode? (f k) = (TokenColor.shape.decode? k).map g) (i : Nat)
    (j : Json) : shape.decode? (alterEntry f i j) = (shape.decode? j).map fun t =>
      { t with tokenColors := t.tokenColors.modify i g } := by
  cases j with
  | object members => exact decode?_alter_entry fun k _ => each k
  | array items =>
    match items with
    | [] => rfl
    | [name] | [name, kind] | [name, kind, colors] =>
      show shape.decode? (.array _) = _
      rw [decode?_array, decode?_array]
      rfl
    | [name, kind, colors, entries] =>
      show shape.decode? (.array [name, kind, colors, entries.alterPart f (.item i)]) = _
      rw [decode?_array, decode?_array]
      simp only [decode?_alter_item fun k _ => each k, Option.bind_eq_bind, Option.map_bind,
        Option.bind_map, Function.comp_def, Option.map_some]
    | name :: kind :: colors :: entries :: more :: rest =>
      show shape.decode? (.array (name :: kind :: colors :: _ :: more :: rest)) = _
      rw [decode?_array, decode?_array]
      rfl
  | _ => rfl

end TokenColorTheme

namespace ThemeSource

theorem bool_of_text {j : Json} {text : Option String}
    (read : (nullable Shape.string).decode? j = some text) : Shape.bool.decode? j = none := by
  cases j with
  | bool b => cases read
  | _ => rfl

theorem ofJson_alterEntry {f : Json → Json} {g : TokenColor → TokenColor}
    (each : ∀ k, TokenColor.shape.decode? (f k) = (TokenColor.shape.decode? k).map g) {j : Json}
    {t : TokenColorTheme} (read : ofJson j = .ok (.tokenColors t)) (i : Nat) :
    ofJson (TokenColorTheme.alterEntry f i j) =
      .ok (.tokenColors { t with tokenColors := t.tokenColors.modify i g }) := by
  obtain ⟨editor, accepted⟩ := ofJson_eq_tokenColors_iff.mp read
  refine ofJson_eq_tokenColors_iff.mpr ⟨?_, ?_⟩
  -- It does not become an editor theme: that form has no such member, and a flag as second item.
  · cases j with
    | object members => exact (decode?_alterMember_of_not_mem (by decide)).trans editor
    | array items =>
      rw [TokenColorTheme.decode?_array] at accepted
      split at accepted
      · rename_i name kind colors entries
        obtain ⟨_, -, accepted⟩ := Option.bind_eq_some_iff.mp accepted
        obtain ⟨_, text, -⟩ := Option.bind_eq_some_iff.mp accepted
        have flag := bool_of_text text
        refine (Shape.decode?_array _).trans ?_
        show byOrder _ [name, kind, colors, entries.alterPart f (.item i)] _ = none
        simp only [byOrder_cons_of, flag, Option.bind_none, Option.bind_fun_none]
      · cases accepted
    | _ => exact editor
  · rw [TokenColorTheme.decode?_alterEntry each, accepted]
    rfl

end ThemeSource

namespace TokenColor

theorem splitOn_intercalate {texts : List (List Char)} (listed : texts ≠ []) :
    ([','].intercalate texts).splitOn ',' = texts.flatMap (·.splitOn ',') := by
  induction texts with
  | nil => exact absurd rfl listed
  | cons text rest ih =>
    cases rest with
    | nil => simp
    | cons next rest =>
      rw [List.intercalate_cons_cons, List.append_assoc, List.singleton_append,
        Scope.splitOn_append_cons, ih (List.cons_ne_nil _ _), ← List.flatMap_cons]

/-- Texts that are joined by commas have the selectors of each. -/
theorem split_intercalate {texts : List String} (listed : texts ≠ []) :
    split (",".intercalate texts) = selectorsOf texts := by
  have pieces : (",".intercalate texts).toList.splitOn ',' =
      texts.flatMap (·.toList.splitOn ',') := by
    rw [String.toList_intercalate]
    exact (splitOn_intercalate (mt List.map_eq_nil_iff.mp listed)).trans (List.flatMap_map ..)
  unfold split selectorsOf
  rw [pieces, List.map_flatMap, List.filter_flatMap, List.map_flatMap]
  rfl

theorem scopesOf_strings (texts : List String) :
    scopesOf (.array (texts.map .string)) = some texts := by
  show some ((texts.map Json.string).filterMap Json.string?) = some texts
  rw [List.filterMap_map]
  exact congrArg some List.filterMap_some

end TokenColor

namespace Theme

open TokenColor

theorem rulesOf_joined (entry : TokenColor) {texts : List String} (listed : texts ≠ []) :
    rulesOf { entry with scope := some [",".intercalate texts] } =
      rulesOf { entry with scope := some texts } := by
  have selectors : selectorsOf [",".intercalate texts] = selectorsOf texts := by
    rw [← split_intercalate listed]
    exact List.flatMap_singleton _ _
  unfold rulesOf
  rw [classesOf_listed entry listed, classesOf_listed entry (List.cons_ne_nil _ _), selectors]

/-- For an entry it makes no difference whether its scopes are listed or joined by commas: both
themes are read, and they are converted to the same. -/
theorem ofTokenColors_joined {j : Json} {t : TokenColorTheme} {i : Nat} {entry : TokenColor}
    {texts : List String} (read : ThemeSource.ofJson j = .ok (.tokenColors t))
    (found : t.tokenColors[i]? = some entry) (listed : texts ≠ []) :
    let withScope := fun scope => TokenColorTheme.alterEntry (TokenColor.withScope scope) i j
    let withTexts := fun texts =>
      { t with tokenColors := t.tokenColors.set i { entry with scope := some texts } }
    ThemeSource.ofJson (withScope (.array (texts.map .string))) =
        .ok (.tokenColors (withTexts texts)) ∧
      ThemeSource.ofJson (withScope (.string (",".intercalate texts))) =
        .ok (.tokenColors (withTexts [",".intercalate texts])) ∧
      ofTokenColors (withTexts [",".intercalate texts]) = ofTokenColors (withTexts texts) ∧
      ∀ version, Snapshot.ofSource (.tokenColors (withTexts [",".intercalate texts])) version =
        Snapshot.ofSource (.tokenColors (withTexts texts)) version := by
  intro withScope withTexts
  have accepted (scope : Json) (texts : List String) (given : scopesOf scope = some texts) :
      ThemeSource.ofJson (withScope scope) = .ok (.tokenColors (withTexts texts)) := by
    have altered := ThemeSource.ofJson_alterEntry (decode?_withScope scope) read i
    rw [List.modify_eq_set_getElem?, found, given] at altered
    exact altered
  have same : ofTokenColors (withTexts [",".intercalate texts]) =
      ofTokenColors (withTexts texts) := by
    have rules : (withTexts [",".intercalate texts]).tokenColors.flatMap rulesOf =
        (withTexts texts).tokenColors.flatMap rulesOf := by
      rw [List.flatMap_def, List.flatMap_def, List.map_set, List.map_set,
        rulesOf_joined entry listed]
    exact congrArg (ofRules _ false · t.colors) rules
  exact ⟨accepted _ _ (scopesOf_strings texts), accepted _ _ rfl, same,
    fun version => congrArg (Snapshot.ofTheme · version) same⟩

/-- The scope of the second entry, in an array, is listed and joined, with blanks and commas. -/
theorem ofTokenColors_joined_blanks :
    let j := Json.object [("tokenColors", .array [
      .object [("scope", .string "x")],
      .array [.null, .ofNat 5, .object [("foreground", .string "#FFF")]]])]
    let t : TokenColorTheme := { tokenColors := [
      { scope := some ["x"] },
      { scope := some [], settings := { foreground := some "#FFF" } }] }
    let withScope := fun scope => TokenColorTheme.alterEntry (TokenColor.withScope scope) 1 j
    ThemeSource.ofJson j = .ok (.tokenColors t) ∧
      ∃ listed joined,
        ThemeSource.ofJson (withScope (.array [.string "a, b", .string "", .string " c "])) =
          .ok (.tokenColors listed) ∧
        ThemeSource.ofJson (withScope (.string "a, b,, c ")) = .ok (.tokenColors joined) ∧
        ofTokenColors joined = ofTokenColors listed ∧
        (ofTokenColors listed).rules.map (·.token) = ["x", "a", "b", "c"] := by
  intro j t withScope
  have read : ThemeSource.ofJson j = .ok (.tokenColors t) := rfl
  obtain ⟨listed, joined, same, -⟩ :=
    @ofTokenColors_joined j t 1 _ ["a, b", "", " c "] read rfl (List.cons_ne_nil _ _)
  exact ⟨read, _, _, listed, joined, same, by decide⟩

end Theme

end TokenTheme
