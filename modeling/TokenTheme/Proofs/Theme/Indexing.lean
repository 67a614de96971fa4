import Mathlib
import TokenTheme.Proofs.Theme.Numbering
import TokenTheme.Theme.Snapshot
/-!
# Tables of a snapshot

A snapshot is read with the help of tables that are made in one pass over its rules: the classes
that it knows, the place of the first rule of each class, and the numbers of the colors as words.
What is read from them is what the rules say.
-/
namespace TokenTheme

theorem find?_contains_congr (candidates : List String) {known known' : List String}
    (same : ∀ token, token ∈ known ↔ token ∈ known') :
    candidates.find? (known.contains ·) = candidates.find? (known'.contains ·) := by
  congr 1
  funext token
  rw [Bool.eq_iff_iff, List.contains_iff_mem, List.contains_iff_mem, same]

/-- The classes that were met, and the place where each was met first. -/
structure Places where
  known : List String := []
  first : List (String × Nat) := []

namespace Places

def insert (t : Places) (token : String) (place : Nat) : Places where
  known := t.known.insert token
  first :=
    match t.first.lookup token with
    | some _ => t.first
    | none => (token, place) :: t.first

def ofRules (rules : List Rule) : Places :=
  rules.zipIdx.foldl (fun t entry => t.insert entry.1.token entry.2) {}

theorem ofRules_concat (rules : List Rule) (r : Rule) :
    ofRules (rules ++ [r]) = (ofRules rules).insert r.token rules.length := by
  simp only [ofRules, List.zipIdx_append, List.foldl_append, List.zipIdx_cons, List.zipIdx_nil,
    List.foldl_cons, List.foldl_nil, Nat.zero_add]

theorem mem_known_ofRules (rules : List Rule) (token : String) :
    token ∈ (ofRules rules).known ↔ token ∈ rules.map (·.token) := by
  induction rules using List.reverseRecOn with
  | nil => exact Iff.rfl
  | append_singleton earlier r ih =>
    rw [ofRules_concat, insert, List.mem_insert_iff, ih]
    simp [or_comm]

theorem lookup_insert (t : Places) (token other : String) (place : Nat) :
    (t.insert token place).first.lookup other =
      (t.first.lookup other).or (if other = token then some place else none) := by
  unfold insert
  by_cases same : other = token
  · subst same
    cases held : t.first.lookup other <;> simp [held]
  · cases held : t.first.lookup token <;> simp [List.lookup_cons, beq_false_of_ne same, same]

/-- A class keeps the place where it was met first. -/
theorem lookup_ofRules (rules : List Rule) (token : String) :
    (ofRules rules).first.lookup token = rules.findIdx? (·.token = token) := by
  induction rules using List.reverseRecOn with
  | nil => rfl
  | append_singleton earlier r ih =>
    rw [ofRules_concat, lookup_insert, ih, List.findIdx?_append]
    congr 1
    by_cases same : token = r.token
    · simp [same]
    · simp [same, Ne.symm same]

end Places

namespace Snapshot

/-- What a snapshot is read from. -/
structure Tables where
  rules : List Rule
  classes : Places
  palette : Palette.Tables

namespace Tables

def ofRules (rules : List Rule) : Tables := ⟨rules, .ofRules rules, .ofRules rules⟩

def ruleFor? (t : Tables) (token : String) : Option Rule :=
  (t.classes.first.lookup token).bind (t.rules[·]?)

def idOf? (t : Tables) (text : Option String) : Option UInt32 :=
  (Rule.colorOf text).bind t.palette.idOf?

def encodeScopes (t : Tables) (scopes : List String) (language : UInt8) : Attributes :=
  let rules := (applicable scopes).filterMap t.ruleFor?
  .encode language (kindOf scopes) false
    ((rules.findSome? fun r => r.fontStyle.map FontStyle.ofText).getD .empty)
    ((rules.findSome? fun r => t.idOf? r.foreground).getD 0)
    ((rules.findSome? fun r => t.idOf? r.background).getD 0)

def resolveClass (t : Tables) (scopes : List String) : String :=
  Scope.resolveClass t.classes.known scopes

variable (theme : Theme) (version : Nat)

theorem ruleFor?_ofRules :
    (ofRules theme.rules).ruleFor? = (ofTheme theme version).ruleFor? := by
  funext token
  unfold ruleFor? Snapshot.ruleFor?
  rw [show (ofRules theme.rules).classes = .ofRules theme.rules from rfl, Places.lookup_ofRules]
  exact List.find?_eq_bind_findIdx?_getElem?.symm

theorem idOf?_ofRules (text : Option String) :
    (ofRules theme.rules).idOf? text = ((ofTheme theme version).idOf? text).map Nat.toUInt32 := by
  unfold idOf? Snapshot.idOf?
  rw [Option.map_bind]
  congr 1
  funext c
  exact (Palette.Tables.holds_ofRules theme.rules).ids c

/-- A color that is found as a word is the one that is found as a number. -/
theorem getD_findSome?_ofRules (text : Rule → Option String) (rules : List Rule) :
    (rules.findSome? fun r => (ofRules theme.rules).idOf? (text r)).getD 0 =
      ((rules.findSome? fun r => (ofTheme theme version).idOf? (text r)).getD 0).toUInt32 := by
  simp only [idOf?_ofRules theme version]
  induction rules with
  | nil => rfl
  | cons r rest ih =>
    rw [List.findSome?_cons, List.findSome?_cons]
    cases (ofTheme theme version).idOf? (text r) with
    | none => exact ih
    | some id => rfl

theorem encodeScopes_ofRules (scopes : List String) (language : UInt8) :
    (ofRules theme.rules).encodeScopes scopes language =
      (ofTheme theme version).encodeScopes scopes language := by
  unfold encodeScopes Snapshot.encodeScopes matchingRules
  simp only [getD_findSome?_ofRules theme version, ruleFor?_ofRules theme version]

theorem resolveClass_ofRules (scopes : List String) :
    (ofRules theme.rules).resolveClass scopes = (ofTheme theme version).resolveClass scopes := by
  have same := find?_contains_congr (Scope.candidates scopes)
    (Places.mem_known_ofRules theme.rules)
  exact congrArg (·.getD "") same

theorem foreground?_ofRules (a : Attributes) :
    (ofRules theme.rules).palette.get? a.foreground = (ofTheme theme version).palette.foreground? a :=
  Palette.Tables.get?_ofRules theme.rules a.foreground

end Tables

end Snapshot

end TokenTheme
