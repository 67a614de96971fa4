import Mathlib
import TokenTheme.Proofs.Theme.Palette
import TokenTheme.Theme.Snapshot
/-!
# Repeated rules

In everything that is derived from a list of rules the first of them wins, so rules that are
repeated at the end of the list change nothing.
-/
namespace TokenTheme

variable {α β : Type} {rules extra : List Rule} {c : Color}

theorem foldl_of_fixed {f : β → α → β} {b : β} {items : List α} (fixed : ∀ a ∈ items, f b a = b) :
    items.foldl f b = b := by
  induction items with
  | nil => rfl
  | cons a rest ih =>
    obtain ⟨first, others⟩ := List.forall_mem_cons.mp fixed
    rw [List.foldl_cons, first, ih others]

theorem find?_append_of_subset {items more : List α} (repeated : more ⊆ items) (p : α → Bool) :
    (items ++ more).find? p = items.find? p := by
  rw [List.find?_append]
  cases found : items.find? p with
  | some a => rfl
  | none =>
    rw [Option.none_or]
    refine List.find?_eq_none.mpr fun a member => ?_
    exact List.find?_eq_none.mp found a (repeated member)

theorem Palette.ofRules_append_of_subset (repeated : extra ⊆ rules) :
    ofRules (rules ++ extra) = ofRules rules := by
  unfold ofRules
  rw [List.flatMap_append, List.foldl_append]
  refine foldl_of_fixed fun c member => ?_
  obtain ⟨r, ruled, colored⟩ := List.mem_flatMap.mp member
  have earlier : c ∈ rules.flatMap Rule.colors := List.mem_flatMap.mpr ⟨r, repeated ruled, colored⟩
  exact if_pos (mem_slots_foldl_insert _ earlier)

theorem ClassMap.claim_of_get? {m : ClassMap} {token owner : String} (held : m.get? c = some owner) :
    m.claim c token = m := by
  unfold claim
  rw [held]

theorem ClassMap.ofRules_append_of_subset (repeated : extra ⊆ rules) :
    ofRules (rules ++ extra) = ofRules rules := by
  induction extra using List.reverseRecOn with
  | nil => rw [List.append_nil]
  | append_singleton earlier r ih =>
    obtain ⟨before, last⟩ := List.append_subset.mp repeated
    rw [← List.append_assoc, ofRules_concat, ih before]
    cases painted : Rule.colorOf r.foreground with
    | none => rfl
    | some c =>
      have owned : (rules.find? (·.Paints c)).isSome :=
        List.find?_isSome.mpr ⟨r, last (List.mem_singleton_self r), decide_eq_true painted⟩
      obtain ⟨first, found⟩ := Option.isSome_iff_exists.mp owned
      have held : (ofRules rules).get? c = some first.token := by
        rw [get?_ofRules, found]
        rfl
      exact claim_of_get? held

theorem Scope.resolveClass_congr {known known' : List String}
    (same : ∀ token, token ∈ known' ↔ token ∈ known) (scopes : List String) :
    resolveClass known' scopes = resolveClass known scopes := by
  have contains : (known'.contains ·) = (known.contains ·) := by
    funext token
    rw [Bool.eq_iff_iff, List.contains_iff_mem, List.contains_iff_mem, same]
  unfold resolveClass
  rw [contains]

namespace Snapshot

/-- Two snapshots give tokens the same style. -/
structure Alike (s s' : Snapshot) : Prop where
  palette : s'.palette = s.palette
  classMap : s'.classMap = s.classMap
  known : ∀ token, token ∈ s'.knownClasses ↔ token ∈ s.knownClasses
  ruleFor? : ∀ token, s'.ruleFor? token = s.ruleFor? token
  base : s'.theme.base = s.theme.base
  foreground : s'.theme.foreground = s.theme.foreground
  background : s'.theme.background = s.theme.background
  encodeScopes : ∀ scopes language, s'.encodeScopes scopes language = s.encodeScopes scopes language
  classOf : ∀ a, s'.classOf a = s.classOf a
  resolveClass : ∀ scopes, s'.resolveClass scopes = s.resolveClass scopes

theorem encodeScopes_congr {s s' : Snapshot} (palette : s'.palette = s.palette)
    (ruleFor? : ∀ token, s'.ruleFor? token = s.ruleFor? token) (scopes : List String)
    (language : UInt8) : s'.encodeScopes scopes language = s.encodeScopes scopes language := by
  have rules : s'.matchingRules scopes = s.matchingRules scopes := by
    unfold matchingRules
    rw [funext ruleFor?]
  have numbers : s'.idOf? = s.idOf? := by
    funext text
    unfold idOf?
    rw [palette]
  unfold encodeScopes
  rw [rules, numbers]

theorem classOf_congr {s s' : Snapshot} (palette : s'.palette = s.palette)
    (classMap : s'.classMap = s.classMap) (a : Attributes) : s'.classOf a = s.classOf a := by
  unfold classOf
  rw [palette, classMap]

theorem alike_append (theme : Theme) (repeated : extra ⊆ theme.rules) (version version' : Nat) :
    (ofTheme theme version).Alike
      (ofTheme { theme with rules := theme.rules ++ extra } version') := by
  let s := ofTheme theme version
  let s' := ofTheme { theme with rules := theme.rules ++ extra } version'
  have palette : s'.palette = s.palette := Palette.ofRules_append_of_subset repeated
  have classMap : s'.classMap = s.classMap := ClassMap.ofRules_append_of_subset repeated
  have ruled : ∀ token, s'.ruleFor? token = s.ruleFor? token :=
    fun token => find?_append_of_subset repeated _
  have known : ∀ token, token ∈ s'.knownClasses ↔ token ∈ s.knownClasses := by
    intro token
    show token ∈ (theme.rules ++ extra).map (·.token) ↔ token ∈ theme.rules.map (·.token)
    rw [List.map_append, List.mem_append]
    exact or_iff_left_of_imp fun member => List.map_subset _ repeated member
  exact {
    palette := palette
    classMap := classMap
    known := known
    ruleFor? := ruled
    base := rfl
    foreground := rfl
    background := rfl
    encodeScopes := encodeScopes_congr palette ruled
    classOf := classOf_congr palette classMap
    resolveClass := Scope.resolveClass_congr known }

end Snapshot

end TokenTheme
