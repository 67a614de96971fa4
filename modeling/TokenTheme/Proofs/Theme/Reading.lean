import Mathlib
import TokenTheme.Proofs.Json.Places
import TokenTheme.Theme.Converted
/-!
# Themes as they are read

What the records of a theme come to: in an object each part is looked up under its name, in an array
it has its place. Values that are no strings count as absent where a text of a style or of an entry
is expected; every other part must have its shape.
-/
namespace TokenTheme

open Json Json.Shape

/-- The text under a name; a value of any other kind counts as none. -/
def Json.textOf (members : List (String × Json)) (name : String) : Option String :=
  (members.lookup name).bind Json.string?

theorem Json.optional_lenientString (members : List (String × Json)) (name : String) :
    lenientString.optional members name none = some (textOf members name) := by
  unfold Shape.optional textOf
  cases members.lookup name with
  | none => rfl
  | some j => rfl

theorem Settings.decode?_object {members : List (String × Json)}
    (once : Once ["foreground", "background", "fontStyle"] (members.map (·.1))) :
    shape.decode? (.object members) = some {
      foreground := textOf members "foreground"
      background := textOf members "background"
      fontStyle := textOf members "fontStyle" } := by
  refine (Shape.decode?_object ?_ ?_).trans ?_
  · simp only [List.pairwise_cons, List.forall_mem_cons, List.Pairwise.nil, List.not_mem_nil,
      false_implies, implies_true, and_true]
    and_intros <;> exact apart_of (by decide) fun _ _ _ => rfl
  · exact once
  · simp (disch := rfl) only [byName_optional, byName_nil, optional_lenientString]
    rfl

theorem TokenColor.decode?_object {members : List (String × Json)}
    (once : Once ["name", "scope", "settings"] (members.map (·.1))) :
    shape.decode? (.object members) =
      (Settings.shape.optional members "settings" {}).map fun settings => {
        name := textOf members "name"
        scope := (members.lookup "scope").bind scopesOf
        settings } := by
  have scope : (map scopesOf any).optional members "scope" none =
      some ((members.lookup "scope").bind scopesOf) := by
    unfold Shape.optional
    cases members.lookup "scope" <;> rfl
  refine (Shape.decode?_object ?_ ?_).trans ?_
  · simp only [List.pairwise_cons, List.forall_mem_cons, List.Pairwise.nil, List.not_mem_nil,
      false_implies, implies_true, and_true]
    and_intros <;> exact apart_of (by decide) fun _ _ _ => rfl
  · exact once
  · simp (disch := rfl) only [byName_optional, byName_nil, optional_lenientString, scope]
    rw [Option.map_eq_bind]
    rfl

theorem Rule.decode?_object {members : List (String × Json)}
    (once : Once ["token", "foreground", "background", "fontStyle"] (members.map (·.1))) :
    shape.decode? (.object members) = (string.optional members "token" "").map fun token => {
      token
      foreground := textOf members "foreground"
      background := textOf members "background"
      fontStyle := textOf members "fontStyle" } := by
  refine (Shape.decode?_object ?_ ?_).trans ?_
  · simp only [List.pairwise_cons, List.forall_mem_cons, List.Pairwise.nil, List.not_mem_nil,
      false_implies, implies_true, and_true]
    and_intros <;> exact apart_of (by decide) fun _ _ _ => rfl
  · exact once
  · simp (disch := rfl) only [byName_optional, byName_nil, optional_lenientString]
    rw [Option.map_eq_bind]
    rfl

theorem EditorTheme.decode?_object {members : List (String × Json)}
    (once : Once ["base", "inherit", "rules", "colors"] (members.map (·.1))) :
    shape.decode? (.object members) = (do
      let base' ← Base.shape.required members "base"
      let inherit' ← bool.required members "inherit"
      let rules ← (list Rule.shape).required members "rules"
      let colors ← (dict any).optional members "colors" .empty
      some { base := base', inherit := inherit', rules, colors }) := by
  refine (Shape.decode?_object ?_ ?_).trans ?_
  · simp only [List.pairwise_cons, List.forall_mem_cons, List.Pairwise.nil, List.not_mem_nil,
      false_implies, implies_true, and_true]
    and_intros <;> exact apart_of (by decide) fun _ _ _ => rfl
  · exact once
  · simp (disch := rfl) only [byName_optional, byName_required, byName_nil]
    rfl

theorem TokenColorTheme.decode?_object {members : List (String × Json)}
    (once : Once ["name", "type", "colors", "tokenColors"] (members.map (·.1))) :
    shape.decode? (.object members) = (do
      let name' ← (nullable string).optional members "name" none
      let kind ← (nullable string).optional members "type" none
      let colors ← (dict any).optional members "colors" .empty
      let tokenColors ← (list TokenColor.shape).required members "tokenColors"
      some { name := name', kind, colors, tokenColors }) := by
  refine (Shape.decode?_object ?_ ?_).trans ?_
  · simp only [List.pairwise_cons, List.forall_mem_cons, List.Pairwise.nil, List.not_mem_nil,
      false_implies, implies_true, and_true]
    and_intros <;> exact apart_of (by decide) fun _ _ _ => rfl
  · exact once
  · simp (disch := rfl) only [byName_optional, byName_required, byName_nil]
    rfl

/-! ### Records in arrays -/

theorem TokenColor.decode?_array (items : List Json) :
    shape.decode? (.array items) = match items with
      | [] => some {}
      | [name] => some { name := name.string? }
      | [name, scope] => some { name := name.string?, scope := scopesOf scope }
      | [name, scope, settings] => (Settings.shape.decode? settings).map fun settings =>
        { name := name.string?, scope := scopesOf scope, settings }
      | _ => none := by
  refine (Shape.decode?_array items).trans ?_
  match items with
  | [] | [name] | [name, scope] => rfl
  | [name, scope, settings] =>
    simp only [byOrder_cons_of]
    rw [Option.map_eq_bind]
    rfl
  | name :: scope :: settings :: more :: rest =>
    simp only [byOrder_cons_of]
    exact Option.bind_fun_none (Settings.shape.decode? settings)

theorem TokenColorTheme.decode?_array (items : List Json) :
    shape.decode? (.array items) = match items with
      | [name, kind, colors, entries] => (do
        let name' ← (nullable string).decode? name
        let kind ← (nullable string).decode? kind
        let colors ← (dict any).decode? colors
        let tokenColors ← (list TokenColor.shape).decode? entries
        some { name := name', kind, colors, tokenColors })
      | _ => none := by
  refine (Shape.decode?_array items).trans ?_
  match items with
  | [] => rfl
  | [name] | [name, kind] | [name, kind, colors] | _ :: _ :: _ :: _ :: more :: rest =>
    simp [byOrder, Field.of]
  | [name, kind, colors, entries] =>
    simp only [byOrder_cons_of]
    rfl

/-! ### Lists and forms -/

theorem TokenColorTheme.decode?_alter_entry {f : Json → Json} {g : TokenColor → TokenColor}
    {i : Nat} {members : List (String × Json)}
    (each : ∀ k, (Json.object members).at? [.member "tokenColors", .item i] = some k →
      TokenColor.shape.decode? (f k) = (TokenColor.shape.decode? k).map g) :
    shape.decode? ((Json.object members).alter f [.member "tokenColors", .item i]) =
      (shape.decode? (.object members)).map fun t =>
        { t with tokenColors := t.tokenColors.modify i g } := by
  let members' := alterMember (Json.alter f [.item i]) "tokenColors" members
  have names : members'.map (·.1) = members.map (·.1) := names_alterMember ..
  have kept {name : String} (other : name ≠ "tokenColors") :
      members'.lookup name = members.lookup name := lookup_alterMember_of_ne other
  have entries := required_alter_item each
  show shape.decode? (.object members') = _
  refine decode?_of_once (h := Option.map _) rfl (by rw [names]) fun once => ?_
  show shape.decode? (.object members') = (shape.decode? (.object members)).map _
  rw [decode?_object (names ▸ once), decode?_object once, entries]
  simp only [Shape.optional, kept (by decide : "name" ≠ "tokenColors"),
    kept (by decide : "type" ≠ "tokenColors"), kept (by decide : "colors" ≠ "tokenColors")]
  simp only [Option.bind_eq_bind, Option.map_bind, Option.bind_map, Function.comp_def,
    Option.map_some]

theorem EditorTheme.decode?_alter_rule {f : Json → Json} {i : Nat} {members : List (String × Json)}
    (each : ∀ k, (Json.object members).at? [.member "rules", .item i] = some k →
      Rule.shape.decode? (f k) = Rule.shape.decode? k) :
    shape.decode? ((Json.object members).alter f [.member "rules", .item i]) =
      shape.decode? (.object members) := by
  let members' := alterMember (Json.alter f [.item i]) "rules" members
  have names : members'.map (·.1) = members.map (·.1) := names_alterMember ..
  have kept {name : String} (other : name ≠ "rules") :
      members'.lookup name = members.lookup name := lookup_alterMember_of_ne other
  have rules : (list Rule.shape).required members' "rules" =
      (list Rule.shape).required members "rules" := by
    have same := required_alter_item (g := id) fun k held => (each k held).trans Option.map_id'.symm
    simpa using same
  show shape.decode? (.object members') = _
  refine decode?_of_once (h := id) rfl (by rw [names]) fun once => ?_
  show shape.decode? (.object members') = shape.decode? (.object members)
  rw [decode?_object (names ▸ once), decode?_object once, rules]
  simp only [Shape.optional, Shape.required, kept (by decide : "base" ≠ "rules"),
    kept (by decide : "inherit" ≠ "rules"), kept (by decide : "colors" ≠ "rules")]

/-- A value is read as the form that it has; which part of it is wrong is not told. -/
theorem ThemeSource.ofJson_eq (j : Json) : ofJson j =
    match EditorTheme.shape.decode? j, TokenColorTheme.shape.decode? j with
    | some t, _ => .ok (.editor t)
    | none, some t => .ok (.tokenColors t)
    | none, none => .error (.ofMismatch (.shapeless "ThemeInput")) := by
  unfold ofJson decode Shape.decode?
  cases EditorTheme.shape.decode j with
  | ok t => rfl
  | error e => cases TokenColorTheme.shape.decode j <;> rfl

theorem ThemeSource.ofJson_eq_tokenColors_iff {j : Json} {t : TokenColorTheme} :
    ofJson j = .ok (.tokenColors t) ↔
      EditorTheme.shape.decode? j = none ∧ TokenColorTheme.shape.decode? j = some t := by
  rw [ofJson_eq]
  cases EditorTheme.shape.decode? j <;> cases TokenColorTheme.shape.decode? j <;> simp

end TokenTheme
