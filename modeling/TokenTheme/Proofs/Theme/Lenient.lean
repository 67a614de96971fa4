import Mathlib
import TokenTheme.Proofs.Theme.Reading
/-!
# Places where anything may stand

In an entry, in its settings, in a rule, in a list of scopes and under the colors a theme may have
values that are no strings where strings are expected. Each of these counts as if it were not there
(`readAlike_of_sheds`), so a theme is never refused for it, and what it is converted to is the same.
-/
namespace TokenTheme

open Json Json.Shape

variable {members : List (String × Json)} {name : String} {v v' bad : Json}

/-! ### Members that are no strings -/

theorem Json.textOf_filter (held : members.lookup name = some bad) (odd : bad.string? = none)
    (other : String) : textOf (members.filter (·.1 ≠ name)) other = textOf members other := by
  unfold textOf
  by_cases same : other = name
  · rw [same, lookup_filter_self, held]
    exact odd.symm
  · rw [lookup_filter_of_ne same]

theorem Settings.decode?_drop (distinct : (members.map (·.1)).Nodup)
    (held : members.lookup name = some bad) (odd : bad.string? = none) :
    shape.decode? ((Json.object members).dropPart (.member name)) =
      shape.decode? (.object members) := by
  show shape.decode? (.object (members.filter (·.1 ≠ name))) = _
  rw [decode?_object (once_of_nodup (nodup_filter distinct name) _),
    decode?_object (once_of_nodup distinct _)]
  simp only [textOf_filter held odd]

theorem Rule.decode?_drop (distinct : (members.map (·.1)).Nodup)
    (held : members.lookup name = some bad) (odd : bad.string? = none) (style : name ≠ "token") :
    shape.decode? ((Json.object members).dropPart (.member name)) =
      shape.decode? (.object members) := by
  show shape.decode? (.object (members.filter (·.1 ≠ name))) = _
  rw [decode?_object (once_of_nodup (nodup_filter distinct name) _),
    decode?_object (once_of_nodup distinct _)]
  simp only [textOf_filter held odd, Shape.optional, lookup_filter_of_ne (Ne.symm style)]

/-! ### Entries -/

namespace TokenColor

theorem decode?_drop_name (distinct : (members.map (·.1)).Nodup)
    (held : members.lookup "name" = some bad) (odd : bad.string? = none) :
    shape.decode? ((Json.object members).dropPart (.member "name")) =
      shape.decode? (.object members) := by
  show shape.decode? (.object (members.filter (·.1 ≠ "name"))) = _
  rw [decode?_object (once_of_nodup (nodup_filter distinct "name") _),
    decode?_object (once_of_nodup distinct _)]
  simp only [textOf_filter held odd, Shape.optional,
    lookup_filter_of_ne (by decide : "scope" ≠ "name"),
    lookup_filter_of_ne (by decide : "settings" ≠ "name")]

theorem decode?_alter_scope {f : Json → Json} (distinct : (members.map (·.1)).Nodup)
    (each : ∀ j, members.lookup "scope" = some j → scopesOf (f j) = scopesOf j) :
    shape.decode? ((Json.object members).alter f [.member "scope"]) =
      shape.decode? (.object members) := by
  have scope : ((alterMember f "scope" members).lookup "scope").bind scopesOf =
      (members.lookup "scope").bind scopesOf := by
    rw [lookup_alterMember, if_pos rfl]
    cases held : members.lookup "scope" with
    | none => rfl
    | some j => exact each j held
  show shape.decode? (.object (alterMember f "scope" members)) = _
  rw [decode?_object (once_of_nodup ((names_alterMember f _ _).symm ▸ distinct) _),
    decode?_object (once_of_nodup distinct _), scope]
  simp only [textOf, Shape.optional, lookup_alterMember_of_ne (by decide : "name" ≠ "scope"),
    lookup_alterMember_of_ne (by decide : "settings" ≠ "scope")]

theorem decode?_alter_settings {f : Json → Json} (distinct : (members.map (·.1)).Nodup)
    (each : ∀ j, members.lookup "settings" = some j →
      Settings.shape.decode? (f j) = Settings.shape.decode? j) :
    shape.decode? ((Json.object members).alter f [.member "settings"]) =
      shape.decode? (.object members) := by
  have settings : Settings.shape.optional (alterMember f "settings" members) "settings" {} =
      Settings.shape.optional members "settings" {} := by
    unfold Shape.optional
    rw [lookup_alterMember, if_pos rfl]
    cases held : members.lookup "settings" with
    | none => rfl
    | some j => exact each j held
  show shape.decode? (.object (alterMember f "settings" members)) = _
  rw [decode?_object (once_of_nodup ((names_alterMember f _ _).symm ▸ distinct) _),
    decode?_object (once_of_nodup distinct _), settings]
  simp only [textOf, lookup_alterMember_of_ne (by decide : "name" ≠ "settings"),
    lookup_alterMember_of_ne (by decide : "scope" ≠ "settings")]

end TokenColor

def styleNames : List String := ["foreground", "background", "fontStyle"]

namespace TokenColor

/-- The places in an entry at which only a string counts. -/
inductive Lenient : Place → Step → Prop
  | name : Lenient [] (.member "name")
  | style {name : String} (named : name ∈ styleNames) : Lenient [.member "settings"] (.member name)
  | scope (index : Nat) : Lenient [.member "scope"] (.item index)

theorem scopesOf_drop {j : Json} {index : Nat} (held : j.part? (.item index) = some bad)
    (odd : bad.string? = none) : scopesOf (j.dropPart (.item index)) = scopesOf j := by
  cases j with
  | array items =>
    show some ((items.eraseIdx index).filterMap Json.string?) = some (items.filterMap Json.string?)
    obtain ⟨bound, rfl⟩ := List.getElem?_eq_some_iff.mp held
    congr 1
    rw [List.eraseIdx_eq_take_drop_succ, List.filterMap_append]
    nth_rewrite 3 [← List.take_append_drop index items]
    rw [List.filterMap_append, List.drop_eq_getElem_cons bound, List.filterMap_cons_none odd]
  | _ => cases held

theorem decode?_drop {entry : Json} {place : Place} {last : Step} (lenient : Lenient place last)
    (distinct : entry.Distinct) (held : entry.at? (place ++ [last]) = some bad)
    (odd : bad.string? = none) :
    shape.decode? (entry.alter (dropPart last) place) = shape.decode? entry := by
  obtain ⟨part, within, here⟩ := at?_append_eq_some_iff.mp held
  rw [at?_single] at here
  cases lenient with
  | name =>
    obtain rfl : entry = part := Option.some.inj within
    obtain ⟨members, rfl, found⟩ := part?_member_eq_some_iff.mp here
    exact decode?_drop_name distinct.names found odd
  | style named =>
    rw [at?_single] at within
    have own := distinct.part within
    obtain ⟨members, rfl, found⟩ := part?_member_eq_some_iff.mp within
    obtain ⟨settings, rfl, found'⟩ := part?_member_eq_some_iff.mp here
    refine decode?_alter_settings distinct.names fun j read => ?_
    obtain rfl := Option.some.inj (found.symm.trans read)
    exact Settings.decode?_drop own.names found' odd
  | scope index =>
    rw [at?_single] at within
    obtain ⟨members, rfl, found⟩ := part?_member_eq_some_iff.mp within
    refine decode?_alter_scope distinct.names fun j read => ?_
    obtain rfl := Option.some.inj (found.symm.trans read)
    exact scopesOf_drop here odd

end TokenColor

/-! ### Colors -/

theorem colors_drop {colors : Json} (distinct : colors.Distinct)
    (held : colors.part? (.member name) = some bad) (odd : bad.string? = none) :
    ∃ d d', (dict any).decode? colors = some d ∧
      (dict any).decode? (colors.dropPart (.member name)) = some d' ∧
      d'.filterMap Json.string? = d.filterMap Json.string? := by
  obtain ⟨members, rfl, found⟩ := part?_member_eq_some_iff.mp held
  have collected (entries : List (String × Json)) :
      (dict any).decode? (.object entries) = some (.ofList entries) :=
    congrArg Except.toOption (decodeEntries_any entries .empty)
  refine ⟨.ofList members, .ofList (members.filter (·.1 ≠ name)), collected _, collected _, ?_⟩
  refine Dict.ext_get? fun other => ?_
  rw [Dict.get?_filterMap, Dict.get?_filterMap, Dict.get?_ofList distinct.names,
    Dict.get?_ofList (nodup_filter distinct.names name)]
  exact textOf_filter found odd other

theorem Theme.ofRules_congr {colors colors' : Dict Json}
    (same : colors'.filterMap Json.string? = colors.filterMap Json.string?) (base : Base)
    (inherit : Bool) (rules : List Rule) :
    ofRules base inherit rules colors' = ofRules base inherit rules colors := by
  unfold ofRules
  rw [same]

namespace ThemeSource

/-- The places in a theme at which only a string counts. -/
inductive Lenient : Place → Step → Prop
  | entry (i : Nat) {place : Place} {last : Step} (inner : TokenColor.Lenient place last) :
      Lenient (.member "tokenColors" :: .item i :: place) last
  | rule (i : Nat) {name : String} (named : name ∈ styleNames) :
      Lenient [.member "rules", .item i] (.member name)
  | color (name : String) : Lenient [.member "colors"] (.member name)

/-- A value and what is left of it without a member or an item that is no string where only a
string counts. -/
inductive Sheds (v : Json) : Json → Prop
  | drop {place : Place} {last : Step} {bad : Json} (lenient : Lenient place last)
      (held : v.at? (place ++ [last]) = some bad) (odd : bad.string? = none) :
      Sheds v (v.alter (dropPart last) place)

/-- Two readings of a theme come to the same: both have the same form and give the same converted
theme, or both are refused for the same reason. -/
inductive ReadAlike : Except Error ThemeSource → Except Error ThemeSource → Prop
  | editor {t t' : EditorTheme} (same : Theme.ofEditor t' = Theme.ofEditor t) :
      ReadAlike (.ok (.editor t)) (.ok (.editor t'))
  | tokenColors {t t' : TokenColorTheme} (name : t'.name = t.name)
      (same : Theme.ofTokenColors t' = Theme.ofTokenColors t) :
      ReadAlike (.ok (.tokenColors t)) (.ok (.tokenColors t'))
  | refused (e : Error) : ReadAlike (.error e) (.error e)

theorem ReadAlike.refl (read : Except Error ThemeSource) : ReadAlike read read := by
  match read with
  | .ok (.editor t) => exact .editor rfl
  | .ok (.tokenColors t) => exact .tokenColors rfl rfl
  | .error e => exact .refused e

theorem ReadAlike.trans {first second third : Except Error ThemeSource}
    (before : ReadAlike first second) (after : ReadAlike second third) : ReadAlike first third := by
  cases before with
  | editor same =>
    cases after with
    | editor same' => exact .editor (same'.trans same)
  | tokenColors name same =>
    cases after with
    | tokenColors name' same' => exact .tokenColors (name'.trans name) (same'.trans same)
  | refused e => exact after

theorem readAlike_of_rel
    (editor : Option.Rel (fun t t' => Theme.ofEditor t' = Theme.ofEditor t)
      (EditorTheme.shape.decode? v) (EditorTheme.shape.decode? v'))
    (tokenColors : Option.Rel
      (fun t t' => t'.name = t.name ∧ Theme.ofTokenColors t' = Theme.ofTokenColors t)
      (TokenColorTheme.shape.decode? v) (TokenColorTheme.shape.decode? v')) :
    ReadAlike (ofJson v) (ofJson v') := by
  rw [ofJson_eq, ofJson_eq]
  generalize EditorTheme.shape.decode? v = e, EditorTheme.shape.decode? v' = e' at editor
  generalize TokenColorTheme.shape.decode? v = t, TokenColorTheme.shape.decode? v' = t'
    at tokenColors
  cases editor with
  | some same => exact .editor same
  | none =>
    cases tokenColors with
    | some same => exact .tokenColors same.1 same.2
    | none => exact .refused _

theorem readAlike_of_eq (editor : EditorTheme.shape.decode? v' = EditorTheme.shape.decode? v)
    (tokenColors : TokenColorTheme.shape.decode? v' = TokenColorTheme.shape.decode? v) :
    ofJson v' = ofJson v := by
  rw [ofJson_eq, ofJson_eq, editor, tokenColors]

/-- An entry may be read in any way that comes to the same. -/
theorem ofJson_alter_entry {f : Json → Json} {i : Nat}
    (each : ∀ entry, v.at? [.member "tokenColors", .item i] = some entry →
      TokenColor.shape.decode? (f entry) = TokenColor.shape.decode? entry) :
    ofJson (v.alter f [.member "tokenColors", .item i]) = ofJson v := by
  cases v with
  | object members =>
    refine readAlike_of_eq (decode?_alterMember_of_not_mem (by decide)) ?_
    have read := TokenColorTheme.decode?_alter_entry (g := id) fun entry held =>
      (each entry held).trans Option.map_id'.symm
    simpa using read
  | _ => rfl

theorem ofJson_alter_rule {f : Json → Json} {i : Nat}
    (each : ∀ rule, v.at? [.member "rules", .item i] = some rule →
      Rule.shape.decode? (f rule) = Rule.shape.decode? rule) :
    ofJson (v.alter f [.member "rules", .item i]) = ofJson v := by
  cases v with
  | object members =>
    exact readAlike_of_eq (EditorTheme.decode?_alter_rule each)
      (decode?_alterMember_of_not_mem (by decide))
  | _ => rfl

theorem rel_bind {α β : Type} {R : β → β → Prop} {f g : α → Option β} (x : Option α)
    (each : ∀ a, Option.Rel R (f a) (g a)) : Option.Rel R (x.bind f) (x.bind g) := by
  cases x with
  | none => exact .none
  | some a => exact each a

theorem readAlike_color (distinct : v.Distinct)
    (held : v.at? [.member "colors", .member name] = some bad) (odd : bad.string? = none) :
    ReadAlike (ofJson v) (ofJson (v.alter (dropPart (.member name)) [.member "colors"])) := by
  obtain ⟨colors, within, here⟩ := Option.bind_eq_some_iff.mp held
  rw [at?_single] at here
  obtain ⟨d, d', read, read', same⟩ := colors_drop (distinct.part within) here odd
  obtain ⟨members, rfl, found⟩ := part?_member_eq_some_iff.mp within
  let members' := alterMember (dropPart (.member name)) "colors" members
  have names : members'.map (·.1) = members.map (·.1) := names_alterMember ..
  have kept {other : String} (different : other ≠ "colors") :
      members'.lookup other = members.lookup other := lookup_alterMember_of_ne different
  have all : (dict any).optional members "colors" .empty = some d := by
    unfold Shape.optional
    rw [found]
    exact read
  have fewer : (dict any).optional members' "colors" .empty = some d' := by
    unfold Shape.optional
    rw [lookup_alterMember, if_pos rfl, found]
    exact read'
  have once (names : List String) : Once names (members.map (·.1)) := once_of_nodup distinct.names _
  -- The colors that are read are not the same, but no more than their texts is ever used.
  refine readAlike_of_rel ?_ ?_
  · show Option.Rel _ _ (EditorTheme.shape.decode? (.object members'))
    rw [EditorTheme.decode?_object (once _), EditorTheme.decode?_object (names ▸ once _), all,
      fewer]
    simp only [Shape.required, kept (by decide : "base" ≠ "colors"),
      kept (by decide : "inherit" ≠ "colors"), kept (by decide : "rules" ≠ "colors")]
    refine rel_bind _ fun base' => rel_bind _ fun inherit' => rel_bind _ fun rules => .some ?_
    exact Theme.ofRules_congr same _ _ _
  · show Option.Rel _ _ (TokenColorTheme.shape.decode? (.object members'))
    rw [TokenColorTheme.decode?_object (once _), TokenColorTheme.decode?_object (names ▸ once _),
      all, fewer]
    simp only [Shape.required, Shape.optional, kept (by decide : "name" ≠ "colors"),
      kept (by decide : "type" ≠ "colors"), kept (by decide : "tokenColors" ≠ "colors")]
    refine rel_bind _ fun name' => rel_bind _ fun kind => rel_bind _ fun entries => .some ?_
    exact ⟨rfl, Theme.ofRules_congr same _ _ _⟩

theorem Sheds.readAlike (sheds : Sheds v v') (distinct : v.Distinct) :
    ReadAlike (ofJson v) (ofJson v') := by
  cases sheds with
  | @drop place last bad lenient held odd =>
    cases lenient with
    | @entry i inner last lenient =>
      -- The place lies within one entry, and nothing else in the theme is altered.
      obtain ⟨entry, within, held⟩ := at?_append_eq_some_iff.mp
        (show v.at? ([.member "tokenColors", .item i] ++ (inner ++ [last])) = some bad from held)
      have same : ofJson (v.alter (dropPart last) (.member "tokenColors" :: .item i :: inner)) =
          ofJson v := by
        refine ofJson_alter_entry (f := alter (dropPart last) inner) fun entry' within' => ?_
        obtain rfl := Option.some.inj (within.symm.trans within')
        exact TokenColor.decode?_drop lenient (distinct.at? within) held odd
      rw [same]
      exact .refl _
    | @rule i name named =>
      obtain ⟨rule, within, here⟩ := at?_append_eq_some_iff.mp held
      rw [at?_single] at here
      have own := distinct.at? within
      obtain ⟨members, rfl, found⟩ := part?_member_eq_some_iff.mp here
      have style : name ≠ "token" := fun same => absurd (same ▸ named) (by decide)
      have same := ofJson_alter_rule (v := v) (f := dropPart (.member name)) fun rule' within' => by
        obtain rfl := Option.some.inj (within.symm.trans within')
        exact Rule.decode?_drop own.names found odd style
      rw [same]
      exact .refl _
    | color name => exact readAlike_color distinct held odd

theorem Sheds.distinct (sheds : Sheds v v') (distinct : v.Distinct) : v'.Distinct := by
  cases sheds with
  | @drop place last bad lenient held odd =>
    exact distinct.alter (fun k below => below.dropPart last) place

/-- A value that is no string, wherever only a string counts, is as good as none: however many of
these are left out, the theme is read as before. And a scope of any kind that has no texts is as
good as an empty list. -/
theorem readAlike_of_sheds (distinct : v.Distinct) :
    (∀ v', Relation.ReflTransGen Sheds v v' → ReadAlike (ofJson v) (ofJson v')) ∧
      ∀ i odd, v.at? [.member "tokenColors", .item i, .member "scope"] = some odd →
        odd ≠ .null → odd.string? = none → odd.items? = none →
        ofJson (v.alter (fun _ => .array []) [.member "tokenColors", .item i, .member "scope"]) =
          ofJson v := by
  constructor
  · intro v' several
    suffices kept : v'.Distinct ∧ ReadAlike (ofJson v) (ofJson v') from kept.2
    induction several with
    | refl => exact ⟨distinct, .refl _⟩
    | tail _ last ih => exact ⟨last.distinct ih.1, ih.2.trans (last.readAlike ih.1)⟩
  · intro i odd held set text items
    obtain ⟨entry, within, here⟩ := at?_append_eq_some_iff.mp
      (show v.at? ([.member "tokenColors", .item i] ++ [.member "scope"]) = some odd from held)
    rw [at?_single] at here
    have own := distinct.at? within
    obtain ⟨members, rfl, found⟩ := part?_member_eq_some_iff.mp here
    let empty := alter (fun _ => .array []) [.member "scope"]
    refine ofJson_alter_entry (f := empty) fun entry' within' => ?_
    obtain rfl := Option.some.inj (within.symm.trans within')
    refine TokenColor.decode?_alter_scope own.names fun j read => ?_
    obtain rfl := Option.some.inj (found.symm.trans read)
    cases odd with
    | null => exact absurd rfl set
    | string s => cases text
    | array items' => cases items
    | _ => rfl

def strayTheme : Json :=
  .object [("colors", .object [("editor.background", .null)]),
    ("tokenColors", .array [
      .object [("scope", .array [.string "a", .bool true]),
        ("settings", .object [("background", .string "#FFF"), ("foreground", .ofNat 5)])],
      .object [("scope", .ofNat 123)]])]

/-- What is left of it without these, and without the scope that has no texts. -/
def clearedTheme : Json :=
  .object [("colors", .object []),
    ("tokenColors", .array [
      .object [("scope", .array [.string "a"]),
        ("settings", .object [("background", .string "#FFF")])],
      .object [("scope", .array [])]])]

theorem readAlike_of_sheds_strayTheme :
    strayTheme.Distinct ∧ ReadAlike (ofJson strayTheme) (ofJson clearedTheme) ∧
      ∃ t, ofJson strayTheme = .ok (.tokenColors t) ∧
        (Theme.ofTokenColors t).rules = [{ token := "a", background := some "#FFF" }] := by
  have distinct : strayTheme.Distinct := distinct_collect strayTheme
  let colorless := strayTheme.alter (dropPart (.member "editor.background")) [.member "colors"]
  let listed := colorless.alter (dropPart (.item 1))
    [.member "tokenColors", .item 0, .member "scope"]
  let styled := listed.alter (dropPart (.member "foreground"))
    [.member "tokenColors", .item 0, .member "settings"]
  have first : Sheds strayTheme colorless := .drop (.color "editor.background") rfl rfl
  have second : Sheds colorless listed := .drop (.entry 0 (.scope 1)) rfl rfl
  have third : Sheds listed styled := .drop (.entry 0 (.style (by decide))) rfl rfl
  have several : Relation.ReflTransGen Sheds strayTheme styled :=
    .tail (.tail (.single first) second) third
  have alike := (readAlike_of_sheds distinct).1 styled several
  have distinct' : styled.Distinct := third.distinct (second.distinct (first.distinct distinct))
  have emptied : ofJson clearedTheme = ofJson styled :=
    (readAlike_of_sheds distinct').2 1 (.ofNat 123) rfl nofun rfl rfl
  exact ⟨distinct, emptied ▸ alike, _, rfl, rfl⟩

end ThemeSource

end TokenTheme
