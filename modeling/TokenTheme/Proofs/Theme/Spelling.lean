import Mathlib
import TokenTheme.Theme.Snapshot
/-!
# Colors by their spelling

The texts of colors are parsed when the palette is made, when colors are given to classes, and when
a stack of scopes gets its style. Each time only the color counts. So two themes that differ in how
they spell colors give the same styles (`stylesAlike_of_respells`), and so they do where both have a
text that is no color.
-/
namespace TokenTheme

variable {α β : Type} {R : α → α → Prop} {rules rules' : List Rule}

/-! ### Related lists -/

theorem map_forall₂ {f : α → β} (same : ∀ a a', R a a' → f a' = f a) {items items' : List α}
    (related : List.Forall₂ R items items') : items'.map f = items.map f := by
  induction related with
  | nil => rfl
  | cons first _ ih => rw [List.map_cons, List.map_cons, same _ _ first, ih]

theorem find?_forall₂ {p : α → Bool} (same : ∀ a a', R a a' → p a' = p a) {items items' : List α}
    (related : List.Forall₂ R items items') : Option.Rel R (items.find? p) (items'.find? p) := by
  induction related with
  | nil => exact .none
  | cons first _ ih =>
    rw [List.find?_cons, List.find?_cons, same _ _ first]
    split
    · exact .some first
    · exact ih

theorem findSome?_forall₂ {f g : α → Option β} (same : ∀ a a', R a a' → g a' = f a)
    {items items' : List α} (related : List.Forall₂ R items items') :
    items'.findSome? g = items.findSome? f := by
  induction related with
  | nil => rfl
  | cons first _ ih => rw [List.findSome?_cons, List.findSome?_cons, same _ _ first, ih]

namespace Rule

/-- Two rules that differ in how their colors are spelled, and in texts that are no colors. -/
structure Respells (r r' : Rule) : Prop where
  token : r'.token = r.token
  fontStyle : r'.fontStyle = r.fontStyle
  foreground : colorOf r'.foreground = colorOf r.foreground
  background : colorOf r'.background = colorOf r.background

theorem Respells.colors {r r' : Rule} (respelled : r.Respells r') : r'.colors = r.colors := by
  unfold Rule.colors
  rw [List.filterMap_cons, List.filterMap_cons, List.filterMap_cons, List.filterMap_cons,
    respelled.foreground, respelled.background]

end Rule

theorem Palette.ofRules_respelled (respelled : List.Forall₂ Rule.Respells rules rules') :
    ofRules rules' = ofRules rules := by
  have colors := map_forall₂ (fun _ _ each => Rule.Respells.colors each) respelled
  unfold ofRules
  rw [List.flatMap_def, List.flatMap_def, colors]

theorem ClassMap.ofRules_respelled (respelled : List.Forall₂ Rule.Respells rules rules') :
    ofRules rules' = ofRules rules := by
  refine (List.rel_foldl (P := (· = ·)) ?_ rfl respelled).symm
  rintro m _ rfl r r' each
  dsimp only
  rw [each.foreground, each.token]

namespace Snapshot

/-- Two snapshots of which nothing tells the styles apart: neither their tables nor what is encoded
or decoded with them. -/
structure StylesAlike (s s' : Snapshot) : Prop where
  palette : s'.palette = s.palette
  classMap : s'.classMap = s.classMap
  knownClasses : s'.knownClasses = s.knownClasses
  encodeScopes : ∀ scopes language, s'.encodeScopes scopes language = s.encodeScopes scopes language
  foreground? : ∀ a, s'.palette.foreground? a = s.palette.foreground? a
  classOf : ∀ a, s'.classOf a = s.classOf a
  resolveClass : ∀ scopes, s'.resolveClass scopes = s.resolveClass scopes

variable {s s' : Snapshot}

theorem knownClasses_respelled
    (respelled : List.Forall₂ Rule.Respells s.theme.rules s'.theme.rules) :
    s'.knownClasses = s.knownClasses :=
  map_forall₂ (fun _ _ each => each.token) respelled

theorem matchingRules_respelled
    (respelled : List.Forall₂ Rule.Respells s.theme.rules s'.theme.rules) (scopes : List String) :
    List.Forall₂ Rule.Respells (s.matchingRules scopes) (s'.matchingRules scopes) := by
  have ruleFor (token : String) : Option.Rel Rule.Respells (s.ruleFor? token) (s'.ruleFor? token) :=
    find?_forall₂ (fun _ _ each => by rw [each.token]) respelled
  have same : List.Forall₂ (· = ·) (applicable scopes) (applicable scopes) := List.forall₂_refl _
  refine List.rel_filterMap ?_ same
  rintro token _ rfl
  exact ruleFor token

theorem encodeScopes_respelled (palette : s'.palette = s.palette)
    (respelled : List.Forall₂ Rule.Respells s.theme.rules s'.theme.rules) (scopes : List String)
    (language : UInt8) : s'.encodeScopes scopes language = s.encodeScopes scopes language := by
  have matched := matchingRules_respelled respelled scopes
  have number {text text' : Option String} (same : Rule.colorOf text' = Rule.colorOf text) :
      s'.idOf? text' = s.idOf? text := by
    unfold idOf?
    rw [palette, same]
  have fontStyle := findSome?_forall₂ (f := fun r => r.fontStyle.map FontStyle.ofText)
    (g := fun r => r.fontStyle.map FontStyle.ofText)
    (fun _ _ each => by rw [each.fontStyle]) matched
  have foreground := findSome?_forall₂ (f := fun r => s.idOf? r.foreground)
    (g := fun r => s'.idOf? r.foreground) (fun _ _ each => number each.foreground) matched
  have background := findSome?_forall₂ (f := fun r => s.idOf? r.background)
    (g := fun r => s'.idOf? r.background) (fun _ _ each => number each.background) matched
  unfold encodeScopes
  dsimp only
  rw [fontStyle, foreground, background]

/-- Themes that differ only in how they spell colors give the same styles. -/
theorem stylesAlike_of_respells {theme theme' : Theme}
    (respelled : List.Forall₂ Rule.Respells theme.rules theme'.rules) (version version' : Nat) :
    (ofTheme theme version).StylesAlike (ofTheme theme' version') := by
  let s := ofTheme theme version
  let s' := ofTheme theme' version'
  have palette : s'.palette = s.palette := Palette.ofRules_respelled respelled
  have classMap : s'.classMap = s.classMap := ClassMap.ofRules_respelled respelled
  have known : s'.knownClasses = s.knownClasses := knownClasses_respelled respelled
  exact {
    palette := palette
    classMap := classMap
    knownClasses := known
    encodeScopes := encodeScopes_respelled palette respelled
    foreground? := fun a => congrArg (Palette.foreground? · a) palette
    classOf := fun a => by
      show (((s'.palette.foreground? a).bind s'.classMap.get?).getD "") = _
      rw [palette, classMap]
      rfl
    resolveClass := fun scopes => congrArg (Scope.resolveClass · scopes) known }

/-- The same theme in two spellings: a color with one digit or two for each component and its
opacity, a name in other letters, and one time a text that is no color instead of none. -/
theorem stylesAlike_of_respells_names :
    let rules : List Rule := [
      { token := "", foreground := some "#F00", background := some "White" },
      { token := "a", foreground := some "nope", background := some "abcdef",
        fontStyle := some "bold" }]
    let rules' : List Rule := [
      { token := "", foreground := some " ##ff0000FF ", background := some "#fff" },
      { token := "a", background := some "#ABCDEF", fontStyle := some "bold" }]
    let theme := Theme.ofRules .dark false rules .empty
    let theme' := Theme.ofRules .light true rules' .empty
    List.Forall₂ Rule.Respells theme.rules theme'.rules ∧
      (ofTheme theme 0).StylesAlike (ofTheme theme' 1) := by
  intro rules rules' theme theme'
  have respelled : List.Forall₂ Rule.Respells theme.rules theme'.rules :=
    .cons ⟨rfl, rfl, by decide, by decide⟩ (.cons ⟨rfl, rfl, by decide, by decide⟩ .nil)
  exact ⟨respelled, stylesAlike_of_respells respelled 0 1⟩

end Snapshot

end TokenTheme
