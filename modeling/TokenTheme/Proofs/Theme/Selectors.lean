import Mathlib
import TokenTheme.Theme.Converted
/-!
# Selectors of an entry

An entry of a token color theme lists texts, and each of these names selectors between its commas.
The entry gives a rule to every selector that is not blank. Only if there is none at all, though the
entry lists texts, does it give a rule to the empty class. So a list may be cut in two entries
where both parts name a selector (`rules_cut`), but a blank text has its rule only as long as
it stands with blank ones.
-/
namespace TokenTheme

variable {α : Type}

/-! ### Pieces between separators -/

theorem forall_mem_splitOn [BEq α] [LawfulBEq α] {sep : α} {p : α → Prop} {items : List α} :
    (∀ piece ∈ items.splitOn sep, ∀ a ∈ piece, p a) ↔ ∀ a ∈ items, a = sep ∨ p a := by
  rw [List.splitOn_eq_splitOnP]
  induction items with
  | nil => simp
  | cons a rest ih =>
    rw [List.splitOnP_cons_eq_if_modifyHead, List.forall_mem_cons, ← ih]
    have some_piece := List.splitOnP_ne_nil (· == sep) rest
    obtain ⟨piece, pieces, split⟩ := List.exists_cons_of_ne_nil some_piece
    rw [split]
    by_cases separates : a = sep
    · simp [separates]
    · simp [separates, and_assoc]

theorem Text.trim_eq_nil_iff {s : List Char} : trim s = [] ↔ ∀ c ∈ s, isBlank c := by
  unfold trim
  rw [List.reverse_eq_nil_iff, List.dropWhile_eq_nil_iff]
  simp only [List.mem_reverse]
  constructor
  · intro rest c member
    rw [← List.takeWhile_append_dropWhile (p := isBlank) (l := s)] at member
    rcases List.mem_append.mp member with front | back
    · exact List.mem_takeWhile_imp front
    · exact rest c back
  · exact fun blank c member => blank c ((List.dropWhile_sublist _).mem member)

namespace TokenColor

/-- Some text has a character that is neither a blank nor a comma. -/
def Selects (texts : List String) : Prop :=
  ∃ text ∈ texts, ∃ c ∈ text.toList, c ≠ ',' ∧ ¬ Text.isBlank c

theorem split_eq_nil_iff {text : String} :
    split text = [] ↔ ∀ c ∈ text.toList, c = ',' ∨ Text.isBlank c := by
  unfold split
  rw [List.map_eq_nil_iff, List.filter_eq_nil_iff, List.forall_mem_map, ← forall_mem_splitOn]
  simp only [Bool.not_eq_true', List.isEmpty_eq_false_iff, ne_eq, not_not, Text.trim_eq_nil_iff]

def selectorsOf (texts : List String) : List String := texts.flatMap split

theorem selectorsOf_ne_nil_iff {texts : List String} : selectorsOf texts ≠ [] ↔ Selects texts := by
  unfold selectorsOf Selects
  simp only [ne_eq, List.flatMap_eq_nil_iff, split_eq_nil_iff]
  push Not
  rfl

end TokenColor

namespace Theme

open TokenColor

variable (entry : TokenColor) {first second texts : List String}

theorem classesOf_listed (listed : texts ≠ []) :
    classesOf { entry with scope := some texts } =
      if (selectorsOf texts).isEmpty then [""] else selectorsOf texts := by
  obtain ⟨text, rest, rfl⟩ := List.exists_cons_of_ne_nil listed
  rfl

theorem classesOf_selects (selects : Selects texts) :
    classesOf { entry with scope := some texts } = selectorsOf texts := by
  have listed : texts ≠ [] := by
    obtain ⟨text, member, -⟩ := selects
    exact List.ne_nil_of_mem member
  rw [classesOf_listed entry listed,
    if_neg (mt List.isEmpty_iff.mp (selectorsOf_ne_nil_iff.mpr selects))]

theorem classesOf_blank (listed : texts ≠ []) (blank : ¬ Selects texts) :
    selectorsOf texts = [] ∧ classesOf { entry with scope := some texts } = [""] := by
  have none : selectorsOf texts = [] := not_not.mp (mt selectorsOf_ne_nil_iff.mp blank)
  rw [classesOf_listed entry listed, none]
  exact ⟨rfl, rfl⟩

theorem selects_append : Selects (first ++ second) ↔ Selects first ∨ Selects second := by
  unfold Selects
  simp only [List.mem_append, or_and_right, exists_or]

/-- Where one part of a list names no selector, the parts have one class more than the whole: the
empty one. -/
theorem classesOf_cut_of_blank (listed : first ≠ []) (listed' : second ≠ [])
    (blank : ¬ (Selects first ∧ Selects second)) : ∃ front back,
      classesOf { entry with scope := some (first ++ second) } = front ++ back ∧
      classesOf { entry with scope := some first } ++
        classesOf { entry with scope := some second } = front ++ "" :: back := by
  have appended : selectorsOf (first ++ second) = selectorsOf first ++ selectorsOf second :=
    List.flatMap_append
  by_cases selects : Selects first
  · have blank' : ¬ Selects second := fun selects' => blank ⟨selects, selects'⟩
    obtain ⟨none, class'⟩ := classesOf_blank entry listed' blank'
    refine ⟨selectorsOf first, [], ?_, ?_⟩
    · rw [classesOf_selects entry (selects_append.mpr (.inl selects)), appended, none]
    · rw [classesOf_selects entry selects, class']
  · obtain ⟨none, class'⟩ := classesOf_blank entry listed selects
    refine ⟨[], classesOf { entry with scope := some second }, ?_, ?_⟩
    · rw [List.nil_append, classesOf_listed entry (List.append_ne_nil_of_left_ne_nil listed second),
        classesOf_listed entry listed', appended, none, List.nil_append]
    · rw [class']
      rfl

theorem classesOf_cut (selects : Selects first) (selects' : Selects second) :
    classesOf { entry with scope := some first } ++ classesOf { entry with scope := some second } =
      classesOf { entry with scope := some (first ++ second) } := by
  rw [classesOf_selects entry selects, classesOf_selects entry selects',
    classesOf_selects entry (selects_append.mpr (.inl selects))]
  exact List.flatMap_append.symm

/-- An entry whose list is cut in two gives the same rules if both parts name a selector. Otherwise
there is one rule more, for the empty class, and this is all that changes. -/
theorem rules_cut (t : TokenColorTheme) (before after : List TokenColor) (entry : TokenColor)
    {first second : List String} (listed : first ≠ []) (listed' : second ≠ []) :
    let whole := ofTokenColors { t with
      tokenColors := before ++ { entry with scope := some (first ++ second) } :: after }
    let cut := ofTokenColors { t with
      tokenColors := before ++
        { entry with scope := some first } :: { entry with scope := some second } :: after }
    cut = { whole with rules := cut.rules } ∧
      (cut.rules = whole.rules ↔ Selects first ∧ Selects second) ∧
      (¬ (Selects first ∧ Selects second) → ∃ front back, whole.rules = front ++ back ∧
        cut.rules = front ++ ruleOf entry.settings "" :: back) := by
  intro whole cut
  -- The rules of the theme by the classes of the entry in question.
  let makes := fun (classes : List String) =>
    before.flatMap rulesOf ++ (classes.map (ruleOf entry.settings) ++ after.flatMap rulesOf)
  have ofWhole : whole.rules =
      makes (classesOf { entry with scope := some (first ++ second) }) := by
    show List.flatMap rulesOf _ = _
    rw [List.flatMap_append, List.flatMap_cons]
    rfl
  have ofCut : cut.rules = makes (classesOf { entry with scope := some first } ++
      classesOf { entry with scope := some second }) := by
    show List.flatMap rulesOf _ = _
    rw [List.flatMap_append, List.flatMap_cons, List.flatMap_cons, ← List.append_assoc (rulesOf _)]
    unfold makes
    rw [List.map_append]
    rfl
  have more : ¬ (Selects first ∧ Selects second) → ∃ front back, whole.rules = front ++ back ∧
      cut.rules = front ++ ruleOf entry.settings "" :: back := by
    intro blank
    obtain ⟨front, back, classes, classes'⟩ :=
      classesOf_cut_of_blank entry listed listed' blank
    refine ⟨before.flatMap rulesOf ++ front.map (ruleOf entry.settings),
      back.map (ruleOf entry.settings) ++ after.flatMap rulesOf, ?_, ?_⟩
    · rw [ofWhole, classes]
      simp only [makes, List.map_append, List.append_assoc]
    · rw [ofCut, classes']
      simp only [makes, List.map_append, List.map_cons, List.append_assoc, List.cons_append]
  refine ⟨rfl, ⟨fun same => ?_, fun ⟨selects, selects'⟩ => ?_⟩, more⟩
  · by_contra blank
    obtain ⟨front, back, rules, rules'⟩ := more blank
    have count := congrArg List.length same
    rw [rules, rules'] at count
    simp at count
  · rw [ofCut, ofWhole, classesOf_cut entry selects selects']

/-- The empty text names everything as long as it stands alone, and nothing beside a selector. -/
theorem rules_cut_emptyText :
    let entry : TokenColor := { settings := { foreground := some "#FF0000" } }
    let whole := ofTokenColors { tokenColors := [{ entry with scope := some ["a", ""] }] }
    let cut := ofTokenColors { tokenColors :=
      [{ entry with scope := some ["a"] }, { entry with scope := some [""] }] }
    whole.rules = [{ token := "a", foreground := some "#FF0000" }] ∧
      cut.rules = [{ token := "a", foreground := some "#FF0000" },
        { token := "", foreground := some "#FF0000" }] ∧
      ["a"] ≠ [] ∧ [""] ≠ [] ∧ cut.rules ≠ whole.rules := by
  intro entry whole cut
  have blank : ¬ Selects [""] := by
    rw [← selectorsOf_ne_nil_iff]
    decide
  have differ := (rules_cut {} [] [] entry (List.cons_ne_nil "a" []) (List.cons_ne_nil "" [])).2.1
  exact ⟨by decide, by decide, by decide, by decide, fun same => blank (differ.mp same).2⟩

end Theme

end TokenTheme
