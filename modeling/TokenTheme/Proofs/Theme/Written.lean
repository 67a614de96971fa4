import Mathlib
import TokenTheme.Proofs.Json.Records
import TokenTheme.Proofs.Theme.Repeated
/-!
# Themes that are written and read again

A converted theme is written as an editor theme. What is read back is converted to the same theme,
but that a theme with inherited rules inherits them once more; in every style that is derived from
it these make no difference.
-/
namespace TokenTheme

open Json.Shape

theorem Base.decode_name (b : Base) : shape.decode (.string b.name) = .ok b := by
  cases b <;> rfl

/-- The members of a rule are collected in the order of their names. -/
theorem Rule.decode_toJson (r : Rule) : shape.decode r.toJson.collect = .ok r := by
  obtain ⟨token, foreground, background, fontStyle⟩ := r
  cases foreground <;> cases background <;> cases fontStyle <;> rfl

theorem Dict.filterMap_strings (d : Dict String) :
    (d.filterMap (some ∘ Json.string)).filterMap Json.string? = d := by
  apply Dict.ext
  simp [Dict.filterMap, Json.string?]

theorem Dict.collect_strings (d : Dict String) :
    (Json.ofDict (d.filterMap (some ∘ .string))).collect =
      .ofDict (d.filterMap (some ∘ .string)) := by
  refine Json.collect_ofDict fun e member => ?_
  obtain ⟨kept, -, same⟩ := List.mem_filterMap.mp member
  cases same
  rfl

namespace Theme

def toEditor (t : Theme) : EditorTheme where
  base := t.base
  inherit := t.inherit
  rules := t.rules
  colors := t.colors.filterMap (some ∘ .string)

theorem collect_toJson (t : Theme) : t.toJson.collect =
    .object [("base", .string t.base.name), ("colors", .ofDict t.toEditor.colors),
      ("inherit", .bool t.inherit), ("rules", .array (t.rules.map (·.toJson.collect)))] := by
  have rules : Json.collectItems (t.rules.map Rule.toJson) = t.rules.map (·.toJson.collect) := by
    rw [Json.collectItems_eq_map, List.map_map]
    rfl
  show Json.object [("base", _), ("colors", (Json.ofDict t.toEditor.colors).collect),
    ("inherit", _), ("rules", .array (Json.collectItems (t.rules.map Rule.toJson)))] = _
  rw [rules, show (Json.ofDict t.toEditor.colors).collect = .ofDict t.toEditor.colors from
    t.colors.collect_strings]
  rfl

theorem decode_toJson (t : Theme) : EditorTheme.shape.decode t.toJson.collect = .ok t.toEditor := by
  have rules : (list Rule.shape).decode (.array (t.rules.map (·.toJson.collect))) = .ok t.rules :=
    decode_list t.rules fun r _ => r.decode_toJson
  rw [collect_toJson]
  unfold EditorTheme.shape record
  show (decodeMembers _ _ _ >>= _) = _
  rw [decodeMembers_cons rfl (by decide) t.base.decode_name,
    decodeMembers_cons rfl (by decide) (decode_dict _),
    decodeMembers_cons rfl (by decide) rfl, decodeMembers_cons rfl (by decide) rules]
  rfl

theorem ofJson_toJson (t : Theme) : ThemeSource.ofJson t.toJson.collect = .ok (.editor t.toEditor) := by
  unfold ThemeSource.ofJson ThemeSource.decode
  rw [decode_toJson]
  rfl

theorem ofRules_toEditor (base : Base) (inherit : Bool) (rules : List Rule) (colors : Dict Json) :
    ofRules base inherit rules (ofRules base inherit rules colors).toEditor.colors =
      ofRules base inherit rules colors := by
  have kept : (ofRules base inherit rules colors).toEditor.colors.filterMap Json.string? =
      colors.filterMap Json.string? := Dict.filterMap_strings _
  unfold ofRules at kept ⊢
  rw [kept]

theorem ofSource_toEditor (source : ThemeSource) :
    ofRules (ofSource source).base (ofSource source).inherit (ofSource source).rules
      (ofSource source).toEditor.colors = ofSource source := by
  cases source with
  | editor t => exact ofRules_toEditor _ _ _ _
  | tokenColors t => exact ofRules_toEditor _ _ _ _

theorem rules_subset_of_inherit {source : ThemeSource} (inherits : (ofSource source).inherit = true) :
    (ofSource source).base.rules ⊆ (ofSource source).rules := by
  cases source with
  | tokenColors t => cases inherits
  | editor t =>
    have inherited : t.inherit = true := inherits
    show t.base.rules ⊆ if t.inherit then t.rules ++ t.base.rules else t.rules
    rw [if_pos inherited]
    exact List.subset_append_right _ _

/-- Every theme can be written as an editor theme and read again, and snapshots of what was read are
like those of the theme. It is the same theme if it inherits nothing; otherwise the inherited rules
are repeated behind the others. -/
theorem alike_written (source : ThemeSource) :
    ∃ e : EditorTheme, ThemeSource.ofJson (ofSource source).toJson.collect = .ok (.editor e) ∧
      ((ofSource source).inherit = false → ofSource (.editor e) = ofSource source) ∧
      ((ofSource source).inherit = true → ofSource (.editor e) = { ofSource source with
        rules := (ofSource source).rules ++ (ofSource source).base.rules }) ∧
      ∀ version version',
        (Snapshot.ofSource source version).Alike (.ofSource (.editor e) version') := by
  let theme := ofSource source
  have settled := ofSource_toEditor source
  have own : theme.inherit = false → ofSource (.editor theme.toEditor) = theme := by
    intro alone
    show ofRules theme.base theme.inherit
      (if theme.inherit then theme.rules ++ theme.base.rules else theme.rules) _ = theme
    rw [if_neg (by simp [alone])]
    exact settled
  have twice : theme.inherit = true → ofSource (.editor theme.toEditor) =
      { theme with rules := theme.rules ++ theme.base.rules } := by
    intro inherits
    show ofRules theme.base theme.inherit
      (if theme.inherit then theme.rules ++ theme.base.rules else theme.rules) _ = _
    rw [if_pos inherits]
    exact congrArg (fun t => { t with rules := theme.rules ++ theme.base.rules }) settled
  refine ⟨theme.toEditor, theme.ofJson_toJson, own, twice, fun version version' => ?_⟩
  unfold Snapshot.ofSource
  cases inherits : theme.inherit with
  | false =>
    have repeated : [] ⊆ theme.rules := List.nil_subset _
    have alike := Snapshot.alike_append theme repeated version version'
    rw [List.append_nil] at alike
    rw [own inherits]
    exact alike
  | true =>
    rw [twice inherits]
    exact Snapshot.alike_append theme (rules_subset_of_inherit inherits) version version'

end Theme

end TokenTheme
