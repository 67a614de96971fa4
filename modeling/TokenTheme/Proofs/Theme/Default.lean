import Mathlib
import TokenTheme.Proofs.Theme.Encoding
/-!
# The rule of the empty class

The rule of the empty class is to be the last resort of a stack of scopes. It is, as long as no
scope is empty or begins with a dot: such a scope has the empty name among its own, and the scopes
further out are not asked any more. `lastResort_default` tells when that rule supplies a part of the
style, and when the class of a stack is the empty one.
-/
namespace TokenTheme

namespace Scope

variable {stop : String → Prop} {f : String → List String} {scopes : List String}
  {scope name : String}

def Dotted (scope : String) : Prop := scope.toList.head? = some '.'

def Blank (scope : String) : Prop := scope = "" ∨ Dotted scope

/-- A scope of the stack such that none further in stops the walk. -/
def Reached (stop : String → Prop) (scopes : List String) (scope : String) : Prop :=
  ∃ outer inner, scopes = outer ++ scope :: inner ∧ ∀ further ∈ inner, ¬ stop further

/-- The names of a scope are not empty, but for a last one where the walk is to stop. -/
def Ends (f : String → List String) (stop : String → Prop) : Prop :=
  ∀ scope, ∃ named, "" ∉ named ∧
    (stop scope ∧ f scope = named ++ [""] ∨ ¬ stop scope ∧ f scope = named)

theorem reached_concat {last : String} :
    Reached stop (scopes ++ [last]) scope ↔
      scope = last ∨ ¬ stop last ∧ Reached stop scopes scope := by
  constructor
  · rintro ⟨outer, inner, split, free⟩
    rcases List.eq_nil_or_concat inner with rfl | ⟨inner, further, rfl⟩
    · have same := List.append_inj_right' split rfl
      exact .inl (List.cons.inj same).1.symm
    · rw [List.concat_eq_append, ← List.cons_append, ← List.append_assoc] at split
      obtain ⟨rfl, same⟩ := List.append_inj' split rfl
      obtain rfl := (List.cons.inj same).1
      refine .inr ⟨free last (by simp), outer, inner, rfl, fun x member => free x ?_⟩
      rw [List.concat_eq_append]
      exact List.mem_append_left _ member
  · rintro (rfl | ⟨onward, outer, inner, rfl, free⟩)
    · exact ⟨scopes, [], rfl, by simp⟩
    · refine ⟨outer, inner ++ [last], by simp, fun x member => ?_⟩
      rcases List.mem_append.mp member with further | innermost
      · exact free x further
      · exact List.mem_singleton.mp innermost ▸ onward

/-- The names before the first empty one are those of the scopes that the walk reaches. -/
theorem mem_takeWhile_iff (ends : Ends f stop) {rest : List String} (empty : ∀ n ∈ rest, n = "") :
    name ∈ (scopes.reverse.flatMap f ++ rest).takeWhile (· ≠ "") ↔
      name ≠ "" ∧ ∃ scope, Reached stop scopes scope ∧ name ∈ f scope := by
  induction scopes using List.reverseRecOn with
  | nil =>
    have none : rest.takeWhile (· ≠ "") = [] := by
      cases rest with
      | nil => rfl
      | cons n rest => exact List.takeWhile_cons_of_neg (by simp [empty n List.mem_cons_self])
    rw [List.reverse_nil, List.flatMap_nil, List.nil_append, none]
    simp [Reached]
  | append_singleton scopes last ih =>
    obtain ⟨named, full, shape⟩ := ends last
    have whole : ∀ n ∈ named, decide (n ≠ "") = true := fun n member =>
      decide_eq_true fun blank => full (blank ▸ member)
    rw [List.reverse_concat, List.flatMap_cons]
    simp only [reached_concat]
    rcases shape with ⟨stops, same⟩ | ⟨onward, same⟩
    · rw [same, List.append_assoc, List.append_assoc, List.takeWhile_append_of_pos whole,
        List.singleton_append, List.takeWhile_cons_of_neg (by decide), List.append_nil]
      constructor
      · intro member
        exact ⟨of_decide_eq_true (whole name member), last, .inl rfl,
          same ▸ List.mem_append_left _ member⟩
      · rintro ⟨nonempty, scope, rfl | ⟨onward, -⟩, member⟩
        · rw [same] at member
          exact (List.mem_append.mp member).resolve_right (by simpa using nonempty)
        · exact absurd stops onward
    · rw [same, List.append_assoc, List.takeWhile_append_of_pos whole, List.mem_append, ih]
      constructor
      · rintro (member | ⟨nonempty, scope, reached, member⟩)
        · exact ⟨of_decide_eq_true (whole name member), last, .inl rfl, same ▸ member⟩
        · exact ⟨nonempty, scope, .inr ⟨onward, reached⟩, member⟩
      · rintro ⟨nonempty, scope, rfl | ⟨-, reached⟩, member⟩
        · exact .inl (same ▸ member)
        · exact .inr ⟨nonempty, scope, reached, member⟩

theorem forall_mem_takeWhile (ends : Ends f stop) {rest : List String}
    (empty : ∀ n ∈ rest, n = "") {p : String → Prop} :
    (∀ n ∈ (scopes.reverse.flatMap f ++ rest).takeWhile (· ≠ ""), p n) ↔
      ∀ scope, Reached stop scopes scope → ∀ n ∈ f scope, n ≠ "" → p n := by
  constructor
  · intro each scope reached n member nonempty
    exact each n ((mem_takeWhile_iff ends empty).mpr ⟨nonempty, scope, reached, member⟩)
  · intro each n early
    obtain ⟨nonempty, scope, reached, member⟩ := (mem_takeWhile_iff ends empty).mp early
    exact each scope reached n member nonempty

theorem reached_of_tail (free : ∀ further ∈ scopes.tail, ¬ stop further) (member : scope ∈ scopes) :
    Reached stop scopes scope := by
  obtain ⟨outer, inner, rfl⟩ := List.append_of_mem member
  refine ⟨outer, inner, rfl, fun further inside => free further ?_⟩
  cases outer with
  | nil => exact inside
  | cons outermost outer => exact List.mem_append_right _ (List.mem_cons_of_mem _ inside)

/-! ### Beginnings -/

theorem prefix_of_mem_cuts {before rest b : List Char} (member : b ∈ cuts before rest) :
    before.reverse <+: b := by
  induction rest generalizing before with
  | nil => cases member
  | cons c rest ih =>
    have further (later : b ∈ cuts (c :: before) rest) : before.reverse <+: b := by
      have longer := ih later
      rw [List.reverse_cons] at longer
      exact (List.prefix_append _ _).trans longer
    unfold cuts at member
    split at member
    · rcases List.mem_append.mp member with later | here
      · exact further later
      · rw [List.mem_singleton.mp here]
    · exact further member

theorem ends_beginnings : Ends beginnings Dotted := by
  intro scope
  unfold beginnings Dotted
  cases scope.toList with
  | nil => exact ⟨[], List.not_mem_nil, .inr ⟨by simp, rfl⟩⟩
  | cons c rest =>
    have long : "" ∉ (cuts [c] rest).map String.ofList := by
      intro member
      obtain ⟨b, cut, blank⟩ := List.mem_map.mp member
      obtain ⟨after, rfl⟩ := prefix_of_mem_cuts cut
      simp at blank
    refine ⟨_, long, ?_⟩
    by_cases dot : c = '.'
    · left
      subst dot
      exact ⟨rfl, by simp [cuts]⟩
    · right
      exact ⟨by simpa using dot, by simp [cuts, dot]⟩

theorem ends_names : Ends (fun scope => scope :: beginnings scope) Blank := by
  intro scope
  by_cases empty : scope = ""
  · subst empty
    exact ⟨[], List.not_mem_nil, .inl ⟨.inl rfl, rfl⟩⟩
  · obtain ⟨named, full, shape⟩ := ends_beginnings scope
    refine ⟨scope :: named, by simp [full, Ne.symm empty], ?_⟩
    rcases shape with ⟨dotted, same⟩ | ⟨plain, same⟩
    · exact .inl ⟨.inr dotted, by simp only [same, List.cons_append]⟩
    · exact .inr ⟨by simp [Blank, empty, plain], by simp only [same]⟩

def candidatesOf (suffix scope : String) : List String :=
  (beginnings scope).flatMap fun b => [b ++ "." ++ suffix, b]

def suffixOf (scopes : List String) : String := lastSegment (scopes.getLastD "")

theorem candidates_eq_flatMap (scopes : List String) :
    candidates scopes = scopes.reverse.flatMap (candidatesOf (suffixOf scopes)) := by
  unfold candidates suffixOf
  rw [List.getLastD_eq_getLast?]
  cases innermost : scopes.getLast? with
  | none => rw [List.getLast?_eq_none_iff.mp innermost, List.reverse_nil, List.flatMap_nil]
  | some scope => rfl

theorem ends_candidates (suffix : String) : Ends (candidatesOf suffix) Dotted := by
  intro scope
  unfold candidatesOf
  have long (b : String) : "" ≠ b ++ "." ++ suffix := by
    intro same
    have lengths := congrArg String.length same
    simp only [String.length_append, String.length_empty] at lengths
    have dot : ".".length = 1 := rfl
    omega
  obtain ⟨named, full, shape⟩ := ends_beginnings scope
  have named_full : "" ∉ named.flatMap fun b => [b ++ "." ++ suffix, b] := by
    intro member
    obtain ⟨b, among, made⟩ := List.mem_flatMap.mp member
    rcases List.mem_pair.mp made with suffixed | alone
    · exact long b suffixed
    · exact full (alone ▸ among)
  rcases shape with ⟨dotted, same⟩ | ⟨plain, same⟩
  · refine ⟨(named.flatMap fun b => [b ++ "." ++ suffix, b]) ++ ["" ++ "." ++ suffix], ?_, ?_⟩
    · simp only [List.mem_append, List.mem_singleton, named_full, long, or_self, not_false_eq_true]
    · exact .inl ⟨dotted, by simp [same]⟩
  · exact ⟨_, named_full, .inr ⟨plain, by rw [same]⟩⟩

/-! ### The first that is right -/

theorem find?_eq_some_iff_takeWhile {p : String → Bool} {l : List String} {a : String} :
    l.find? p = some a ↔ a ∈ l ∧ p a ∧ ∀ b ∈ l.takeWhile (· ≠ a), ¬ p b := by
  induction l with
  | nil => simp
  | cons b l ih =>
    by_cases same : b = a
    · subst same
      rw [List.takeWhile_cons_of_neg (by simp)]
      constructor
      · intro found
        exact ⟨List.mem_cons_self, List.find?_some found, by simp⟩
      · rintro ⟨-, right, -⟩
        exact List.find?_cons_of_pos right
    · rw [List.takeWhile_cons_of_pos (by simpa using same)]
      by_cases right : p b
      · rw [List.find?_cons_of_pos right]
        simp [same, right]
      · rw [List.find?_cons_of_neg right, ih]
        simp [right, Ne.symm same]

/-- The class of a stack of scopes is the empty one, which is known, exactly if none of the
candidates before the first empty one is. -/
theorem resolveClass_eq_empty_iff {known scopes : List String} (default : "" ∈ known) :
    resolveClass known scopes = "" ↔
      ∀ c ∈ (candidates scopes ++ [""]).takeWhile (· ≠ ""), c ∉ known := by
  have found : (candidates scopes ++ [""]).find? (known.contains ·) =
      some (resolveClass known scopes) := by
    have last : [""].find? (known.contains ·) = some "" :=
      List.find?_cons_of_pos (List.contains_iff_mem.mpr default)
    rw [List.find?_append, last]
    unfold resolveClass
    cases (candidates scopes).find? (known.contains ·) <;> rfl
  rw [← Option.some_inj, ← found, find?_eq_some_iff_takeWhile]
  simp [default]

end Scope

namespace Snapshot

/-! ### The rule that supplies a part of the style -/

inductive Part where
  | foreground
  | background
  | fontStyle

/-- A rule sets a color only by a text that is one, and a font style by any text. -/
def Part.setBy (part : Part) (r : Rule) : Bool :=
  match part with
  | .foreground => (Rule.colorOf r.foreground).isSome
  | .background => (Rule.colorOf r.background).isSome
  | .fontStyle => r.fontStyle.isSome

def supplier? (s : Snapshot) (scopes : List String) (part : Part) : Option Rule :=
  (s.matchingRules scopes).find? part.setBy

variable {s : Snapshot} {scopes : List String} {part : Part} {r : Rule} {name : String}

theorem token_of_ruleFor? (found : s.ruleFor? name = some r) : r.token = name := by
  simpa using List.find?_some found

/-- The rule of the empty class supplies a part exactly if it sets it, and no name before the first
empty one has a rule that does. -/
theorem supplier?_eq_default_iff {d : Rule} (default : s.ruleFor? "" = some d) :
    s.supplier? scopes part = some d ↔ part.setBy d ∧
      ∀ name ∈ (applicable scopes).takeWhile (· ≠ ""), ∀ r, s.ruleFor? name = some r →
        ¬ part.setBy r := by
  have first : s.supplier? scopes part = some d ↔
      (applicable scopes).find? (fun name => (s.ruleFor? name).any part.setBy) = some "" := by
    unfold supplier? matchingRules
    rw [List.find?_filterMap, Option.bind_eq_some_iff]
    constructor
    · rintro ⟨name, found, named⟩
      have same := (token_of_ruleFor? named).symm.trans (token_of_ruleFor? default)
      exact same ▸ found
    · intro found
      exact ⟨"", found, default⟩
  have last : "" ∈ applicable scopes := List.mem_append_right _ (List.mem_singleton_self _)
  have unset (name : String) : ¬ (s.ruleFor? name).any part.setBy ↔
      ∀ r, s.ruleFor? name = some r → ¬ part.setBy r := by
    cases s.ruleFor? name <;> simp
  rw [first, Scope.find?_eq_some_iff_takeWhile, default, Option.any_some]
  simp only [last, true_and, unset]

theorem findSome?_eq_bind_find? {β : Type} (f : Rule → Option β) (rules : List Rule) :
    rules.findSome? f = (rules.find? fun r => (f r).isSome).bind f := by
  induction rules with
  | nil => rfl
  | cons r rest ih =>
    cases set : f r with
    | none => rw [List.findSome?_cons, List.find?_cons_of_neg (by simp [set]), set, ih]
    | some b =>
      rw [List.findSome?_cons, List.find?_cons_of_pos (by simp [set]), Option.bind_some, set]

theorem Derived.findSome?_eq_supplier? (derived : s.Derived) {text : Rule → Option String}
    (colors : ∀ r c, Rule.colorOf (text r) = some c → c ∈ r.colors)
    (sets : ∀ r, part.setBy r = (Rule.colorOf (text r)).isSome) :
    ((s.matchingRules scopes).findSome? fun r => s.idOf? (text r)) =
      (s.supplier? scopes part).bind fun r => s.idOf? (text r) := by
  have number : ∀ r ∈ s.matchingRules scopes, ∀ c, Rule.colorOf (text r) = some c →
      ∃ id, s.palette.idOf? c = some id := by
    intro r member c colored
    obtain ⟨id, number, -⟩ :=
      derived.exists_idOf? (mem_rules_of_mem_matchingRules member) (colors r c colored)
    exact ⟨id, number⟩
  rw [findSome?_idOf? number, findSome?_eq_bind_find?, Option.bind_assoc, supplier?]
  simp only [← sets]
  rfl

/-- The style of a stack of scopes in terms of the rules that supply its parts. -/
def encodeBySuppliers (s : Snapshot) (scopes : List String) (language : UInt8) : Attributes :=
  .encode language (kindOf scopes) false
    ((((s.supplier? scopes .fontStyle).bind (·.fontStyle)).map FontStyle.ofText).getD .empty)
    (((s.supplier? scopes .foreground).bind fun r => s.idOf? r.foreground).getD 0).toUInt32
    (((s.supplier? scopes .background).bind fun r => s.idOf? r.background).getD 0).toUInt32

theorem Derived.encodeScopes_eq (derived : s.Derived) (scopes : List String) (language : UInt8) :
    s.encodeScopes scopes language = s.encodeBySuppliers scopes language := by
  have foreground : ((s.matchingRules scopes).findSome? fun r => s.idOf? r.foreground) =
      (s.supplier? scopes .foreground).bind fun r => s.idOf? r.foreground :=
    derived.findSome?_eq_supplier? Rule.mem_colors_foreground fun _ => rfl
  have background : ((s.matchingRules scopes).findSome? fun r => s.idOf? r.background) =
      (s.supplier? scopes .background).bind fun r => s.idOf? r.background :=
    derived.findSome?_eq_supplier? Rule.mem_colors_background fun _ => rfl
  have fontStyle : (s.matchingRules scopes).findSome? (fun r => r.fontStyle.map FontStyle.ofText) =
      ((s.supplier? scopes .fontStyle).bind (·.fontStyle)).map FontStyle.ofText := by
    show _ = (((s.matchingRules scopes).find? fun r => r.fontStyle.isSome).bind _).map _
    rw [← findSome?_eq_bind_find?, List.map_findSome?]
    rfl
  unfold encodeScopes encodeBySuppliers
  simp only [foreground, background, fontStyle]

/-- What has to be unset or unknown before the rule of the empty class has its turn. -/
structure LastResort (s : Snapshot) (default : Rule) (scopes : List String) : Prop where
  encoded : ∀ language, s.encodeScopes scopes language = s.encodeBySuppliers scopes language
  /-- It supplies a part if it sets it and no rule does of another name of a scope that is
  reached. -/
  supplied : ∀ part : Part, s.supplier? scopes part = some default ↔ part.setBy default ∧
    ∀ scope, Scope.Reached Scope.Blank scopes scope →
      ∀ name ∈ scope :: Scope.beginnings scope, name ≠ "" →
        ∀ r, s.ruleFor? name = some r → ¬ part.setBy r
  /-- The class is the empty one if no other candidate is known of a scope that is reached. -/
  resolved : s.resolveClass scopes = "" ↔
    ∀ scope, Scope.Reached Scope.Dotted scopes scope →
      ∀ c ∈ Scope.candidatesOf (Scope.suffixOf scopes) scope, c ≠ "" → c ∉ s.knownClasses
  /-- All scopes are reached if none but the outermost is empty or begins with a dot. -/
  reached : (∀ scope ∈ scopes.tail, ¬ Scope.Blank scope) → ∀ scope ∈ scopes,
    Scope.Reached Scope.Blank scopes scope ∧ Scope.Reached Scope.Dotted scopes scope

/-- The rule of the empty class is the last resort of the scopes that are reached, and of all the
scopes unless one of them that is not the outermost is empty or begins with a dot. -/
theorem lastResort_default (derived : s.Derived) {default : Rule}
    (held : s.ruleFor? "" = some default) (scopes : List String) :
    s.LastResort default scopes where
  encoded := derived.encodeScopes_eq scopes
  supplied part := by
    have empty : ∀ n ∈ [""], n = "" := fun n => List.mem_singleton.mp
    rw [supplier?_eq_default_iff held]
    exact and_congr_right fun _ => Scope.forall_mem_takeWhile Scope.ends_names empty
  resolved := by
    have empty : ∀ n ∈ [""], n = "" := fun n => List.mem_singleton.mp
    have known : "" ∈ s.knownClasses :=
      List.mem_map.mpr ⟨default, List.mem_of_find?_eq_some held, token_of_ruleFor? held⟩
    unfold resolveClass
    rw [Scope.resolveClass_eq_empty_iff known, Scope.candidates_eq_flatMap]
    exact Scope.forall_mem_takeWhile (Scope.ends_candidates _) empty
  reached plain scope member :=
    have undotted : ∀ further ∈ scopes.tail, ¬ Scope.Dotted further :=
      fun further inside dotted => plain further inside (.inr dotted)
    ⟨Scope.reached_of_tail plain member, Scope.reached_of_tail undotted member⟩

def keywordTheme : Theme :=
  .ofRules default false [
    { token := "", foreground := some "#111111" },
    { token := "keyword", foreground := some "#222222" }] .empty

/-- A scope that begins with a dot keeps the keyword around it from being asked. -/
theorem lastResort_default_dotted :
    let s := ofTheme keywordTheme 0
    let default : Rule := { token := "", foreground := some "#111111" }
    s.Derived ∧ s.ruleFor? "" = some default ∧
      s.LastResort default ["keyword.ts", ".x"] ∧
      s.supplier? ["keyword.ts", ".x"] .foreground = some default ∧
      s.resolveClass ["keyword.ts", ".x"] = "" := by
  intro s default
  have derived : s.Derived := .ofTheme keywordTheme 0
  have held : s.ruleFor? "" = some default := by
    decide +kernel
  exact ⟨derived, held, lastResort_default derived held ["keyword.ts", ".x"], by decide +kernel,
    by decide +kernel⟩

end Snapshot

end TokenTheme
