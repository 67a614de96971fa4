import Mathlib
import TokenTheme.Proofs.Theme.Decoding
/-!
# The numbering of colors

A palette holds each color of its rules once, in the order in which they first appear, and numbers
them from 1 on; the class map holds each foreground once. The numbering is kept here in two tables
as well, the slots and the number of each color as a word, and the two stay inverse to one another
as long as a word can count the slots (`numbering_ofRules`).
-/
namespace TokenTheme

theorem eraseDups_concat {α : Type} [DecidableEq α] (items : List α) (a : α) :
    (items ++ [a]).eraseDups = if a ∈ items then items.eraseDups else items.eraseDups ++ [a] := by
  rw [List.eraseDups_append]
  split
  · rename_i present
    simp [List.removeAll, present]
  · rename_i absent
    simp [List.removeAll, absent, List.eraseDups_cons]

namespace Rule

def distinctColors (rules : List Rule) : List Color := (rules.flatMap colors).eraseDups

def distinctForegrounds (rules : List Rule) : List Color :=
  (rules.filterMap fun r => colorOf r.foreground).eraseDups

theorem mem_distinctColors {rules : List Rule} {c : Color} :
    c ∈ distinctColors rules ↔
      ∃ r ∈ rules, colorOf r.foreground = some c ∨ colorOf r.background = some c := by
  simp [distinctColors, colors, List.mem_filterMap]

end Rule

namespace Palette

variable {p : Palette} {c d : Color} {id : Nat}

theorem insert_of_mem (present : some c ∈ p.slots) : p.insert c = p := if_pos present

theorem insert_of_not_mem (absent : some c ∉ p.slots) : p.insert c = ⟨p.slots ++ [some c]⟩ :=
  if_neg absent

theorem slots_foldl_insert (colors : List Color) :
    (colors.foldl insert ⟨[none]⟩).slots = none :: colors.eraseDups.map some := by
  induction colors using List.reverseRecOn with
  | nil => rfl
  | append_singleton earlier c ih =>
    have held : some c ∈ (earlier.foldl insert ⟨[none]⟩).slots ↔ c ∈ earlier := by
      simp [ih, List.mem_eraseDups]
    rw [List.foldl_append, List.foldl_cons, List.foldl_nil, eraseDups_concat]
    by_cases present : c ∈ earlier
    · rw [insert_of_mem (held.mpr present), if_pos present, ih]
    · rw [insert_of_not_mem (mt held.mp present), if_neg present, ih]
      simp

theorem slots_ofRules (rules : List Rule) :
    (ofRules rules).slots = none :: (Rule.distinctColors rules).map some :=
  slots_foldl_insert _

theorem exists_slot {rules : List Rule} (later : 0 < id) (bound : id < (ofRules rules).slots.length) :
    ∃ c, (ofRules rules).slots[id]? = some (some c) := by
  obtain ⟨i, rfl⟩ := Nat.exists_eq_succ_of_ne_zero (Nat.ne_of_gt later)
  rw [slots_ofRules] at bound ⊢
  rw [List.length_cons, List.length_map] at bound
  rw [List.getElem?_cons_succ, List.getElem?_map, List.getElem?_eq_getElem (by omega)]
  exact ⟨_, rfl⟩

theorem colors_ofRules (rules : List Rule) : (ofRules rules).colors = Rule.distinctColors rules := by
  unfold colors
  rw [slots_ofRules, List.filterMap_cons_none rfl, List.filterMap_map]
  exact List.filterMap_some

theorem get?_eq_some_iff : p.get? id = some c ↔ p.slots[id]? = some (some c) := by
  unfold get?
  exact Option.join_eq_some_iff

theorem idOf?_eq_some_iff (distinct : p.slots.Nodup) :
    p.idOf? c = some id ↔ p.slots[id]? = some (some c) := by
  constructor
  · exact getElem?_of_idOf?
  · intro held
    obtain ⟨bound, same⟩ := List.getElem?_eq_some_iff.mp held
    refine List.idxOf?_eq_some_iff.mpr ⟨bound, same, fun j earlier again => ?_⟩
    have twice : id = j := distinct.getElem_inj_iff.mp (same.trans again.symm)
    omega

theorem idOf?_ofRules_succ {rules : List Rule} {i : Nat} :
    (ofRules rules).idOf? c = some (i + 1) ↔ (Rule.distinctColors rules)[i]? = some c := by
  rw [idOf?_eq_some_iff (nodup_ofRules rules), slots_ofRules, List.getElem?_cons_succ,
    List.getElem?_map, Option.map_eq_some_iff]
  simp

theorem exists_idOf?_ofRules {rules : List Rule} (member : c ∈ Rule.distinctColors rules) :
    ∃ i, (ofRules rules).idOf? c = some (i + 1) := by
  obtain ⟨i, found⟩ := List.mem_iff_getElem?.mp member
  exact ⟨i, idOf?_ofRules_succ.mpr found⟩

theorem mem_of_idOf?_ofRules {rules : List Rule} (number : (ofRules rules).idOf? c = some id) :
    c ∈ Rule.distinctColors rules := by
  have member := List.mem_of_getElem? (getElem?_of_idOf? number)
  simpa [slots_ofRules] using member

theorem length_ofRules (rules : List Rule) :
    (ofRules rules).length = (Rule.distinctColors rules).length + 1 := by
  unfold length
  rw [slots_ofRules, List.length_cons, List.length_map]

theorem idOf?_insert (absent : some c ∉ p.slots) :
    (p.insert c).idOf? d = if d = c then some p.length else p.idOf? d := by
  rw [insert_of_not_mem absent]
  unfold idOf? length
  show List.findIdx? _ (p.slots ++ [some c]) = _
  rw [List.findIdx?_append]
  split
  · rename_i same
    subst same
    have missed : p.slots.idxOf? (some d) = none := List.idxOf?_eq_none_iff.mpr absent
    rw [show List.findIdx? (· == some d) p.slots = none from missed]
    simp
  · rename_i other
    have missed : List.findIdx? (· == some d) [some c] = none := by
      simp [Ne.symm other]
    rw [missed, Option.map_none, Option.or_none]
    rfl

/-! ### Two tables -/

/-- A palette in two tables, one for each direction; numbers are words. -/
structure Tables where
  slots : List (Option Color)
  ids : List (Color × UInt32)

namespace Tables

def get? (t : Tables) (id : UInt32) : Option Color :=
  t.slots[id.toNat]?.join

def idOf? (t : Tables) (c : Color) : Option UInt32 := t.ids.lookup c

def insert (t : Tables) (c : Color) : Tables :=
  match t.idOf? c with
  | some _ => t
  | none => ⟨t.slots ++ [some c], (c, t.slots.length.toUInt32) :: t.ids⟩

def takeRule (t : Tables) (r : Rule) : Tables :=
  [r.foreground, r.background].foldl (fun t text =>
    match Rule.colorOf text with
    | some c => t.insert c
    | none => t) t

def ofRules (rules : List Rule) : Tables :=
  rules.foldl takeRule ⟨[none], []⟩

structure Holds (t : Tables) (p : Palette) : Prop where
  slots : t.slots = p.slots
  ids : ∀ c, t.idOf? c = (p.idOf? c).map Nat.toUInt32

theorem Holds.insert {t : Tables} (holds : t.Holds p) (c : Color) :
    (t.insert c).Holds (p.insert c) := by
  unfold Tables.insert
  cases number : p.idOf? c with
  | some id =>
    have present : some c ∈ p.slots := List.mem_of_getElem? (getElem?_of_idOf? number)
    have known : t.idOf? c = some id.toUInt32 := by rw [holds.ids, number, Option.map_some]
    rw [known, insert_of_mem present]
    exact holds
  | none =>
    have absent : some c ∉ p.slots := List.idxOf?_eq_none_iff.mp number
    have unknown : t.idOf? c = none := by rw [holds.ids, number, Option.map_none]
    rw [unknown]
    refine ⟨by rw [insert_of_not_mem absent, holds.slots], fun d => ?_⟩
    rw [idOf?_insert absent]
    unfold Tables.idOf?
    by_cases same : d = c
    · subst same
      rw [List.lookup_cons_self, if_pos rfl, holds.slots]
      rfl
    · rw [List.lookup_cons, beq_false_of_ne same, if_neg same]
      exact holds.ids d

theorem Holds.takeRule {t : Tables} (holds : t.Holds p) (r : Rule) :
    (t.takeRule r).Holds (r.colors.foldl Palette.insert p) := by
  unfold Tables.takeRule Rule.colors
  generalize [r.foreground, r.background] = texts
  induction texts generalizing t p with
  | nil => exact holds
  | cons text rest ih =>
    rw [List.foldl_cons]
    cases colored : Rule.colorOf text with
    | none =>
      rw [List.filterMap_cons_none colored]
      exact ih holds
    | some c =>
      rw [List.filterMap_cons_some colored, List.foldl_cons]
      exact ih (holds.insert c)

theorem holds_ofRules (rules : List Rule) : (ofRules rules).Holds (Palette.ofRules rules) := by
  have start : Holds ⟨[none], []⟩ ⟨[none]⟩ := ⟨rfl, fun c => by simp [idOf?, Palette.idOf?]⟩
  unfold ofRules Palette.ofRules
  generalize (⟨[none], []⟩ : Tables) = t at start
  generalize (⟨[none]⟩ : Palette) = p at start
  induction rules generalizing t p with
  | nil => exact start
  | cons r rest ih =>
    rw [List.foldl_cons, List.flatMap_cons, List.foldl_append]
    exact ih _ _ (start.takeRule r)

theorem get?_ofRules (rules : List Rule) (id : UInt32) :
    (ofRules rules).get? id = (Palette.ofRules rules).get? id.toNat := by
  unfold Tables.get? Palette.get?
  rw [(holds_ofRules rules).slots]

/-- Slot by slot and number by number the tables are inverse to one another, unless there are more
slots than a word can count. -/
theorem inverse_iff (rules : List Rule) :
    (∀ id c, (ofRules rules).get? id = some c ↔ (ofRules rules).idOf? c = some id) ↔
      (Palette.ofRules rules).length ≤ 2 ^ 32 := by
  have holds := holds_ofRules rules
  have distinct := nodup_ofRules rules
  constructor
  · intro inverse
    by_contra long
    -- The last slot has the number that is the first one to be cut to 0.
    have bound : 2 ^ 32 < (Palette.ofRules rules).slots.length := Nat.lt_of_not_le long
    obtain ⟨c, last⟩ := exists_slot (Nat.two_pow_pos 32) bound
    have number := (idOf?_eq_some_iff distinct).mpr last
    have cut : (ofRules rules).idOf? c = some 0 := by
      rw [holds.ids, number]
      rfl
    have zero := (get?_ofRules rules 0).symm.trans ((inverse 0 c).mpr cut)
    exact absurd ((get?_zero_ofRules rules).symm.trans zero) (by simp)
  · intro short id c
    rw [get?_ofRules, holds.ids, get?_eq_some_iff, ← idOf?_eq_some_iff distinct, Option.map_eq_some_iff]
    constructor
    · intro number
      exact ⟨id.toNat, number, UInt32.toNat_inj.mp (by simp)⟩
    · rintro ⟨n, number, rfl⟩
      have inRange := (List.getElem?_eq_some_iff.mp (getElem?_of_idOf? number)).1
      have small : n < 2 ^ 32 := Nat.lt_of_lt_of_le inRange short
      rw [UInt32.toNat_ofNat_of_lt' small]
      exact number

end Tables

end Palette

namespace ClassMap

def keys (m : ClassMap) : List Color := m.entries.map (·.1)

theorem keys_claim (m : ClassMap) (c : Color) (token : String) :
    (m.claim c token).keys = if (m.get? c).isSome then m.keys else m.keys ++ [c] := by
  unfold claim
  cases held : m.get? c with
  | some owner => simp
  | none => simp [keys]

theorem get?_isSome_iff {rules : List Rule} {c : Color} :
    ((ofRules rules).get? c).isSome ↔ ∃ r ∈ rules, r.Paints c := by
  rw [get?_ofRules, Option.isSome_map, List.find?_isSome]
  simp

/-- The keys are the foregrounds, each in the place where it first appears. -/
theorem keys_ofRules (rules : List Rule) : (ofRules rules).keys = Rule.distinctForegrounds rules := by
  induction rules using List.reverseRecOn with
  | nil => rfl
  | append_singleton earlier r ih =>
    rw [ofRules_concat]
    unfold Rule.distinctForegrounds at ih ⊢
    cases painted : Rule.colorOf r.foreground with
    | none => simpa [List.filterMap_append, painted] using ih
    | some c =>
      have last : [r].filterMap (fun r => Rule.colorOf r.foreground) = [c] := by simp [painted]
      have held : ((ofRules earlier).get? c).isSome ↔
          c ∈ earlier.filterMap fun r => Rule.colorOf r.foreground :=
        get?_isSome_iff.trans List.mem_filterMap.symm
      rw [List.filterMap_append, last, eraseDups_concat, keys_claim, ih]
      exact if_congr held rfl rfl

end ClassMap

structure Numbering (rules : List Rule) (p : Palette) (m : ClassMap) (t : Palette.Tables) :
    Prop where
  zero : p.get? 0 = none
  inverse : ∀ id c, p.get? id = some c ↔ p.idOf? c = some id
  held : p.colors = Rule.distinctColors rules
  numbers : ∀ i c, p.idOf? c = some (i + 1) ↔ (Rule.distinctColors rules)[i]? = some c
  parsed : ∀ c, (∃ id, p.idOf? c = some id) ↔
    ∃ r ∈ rules, Rule.colorOf r.foreground = some c ∨ Rule.colorOf r.background = some c
  length : p.length = (Rule.distinctColors rules).length + 1
  keys : m.keys = Rule.distinctForegrounds rules
  painted : ∀ c, (m.get? c).isSome ↔ ∃ r ∈ rules, r.Paints c
  numbered : ∀ c, (m.get? c).isSome → ∃ i, p.idOf? c = some (i + 1)
  slots : t.slots = p.slots
  ids : ∀ c, t.idOf? c = (p.idOf? c).map Nat.toUInt32
  words : (∀ id c, t.get? id = some c ↔ t.idOf? c = some id) ↔ p.length ≤ 2 ^ 32

/-- A palette numbers the distinct colors of its rules from 1 on, in the order in which they first
appear. The class map has their foregrounds as its keys, all of which have a number. The two tables
in which the numbering is kept agree with it. -/
theorem numbering_ofRules (rules : List Rule) :
    Numbering rules (.ofRules rules) (.ofRules rules) (.ofRules rules) := by
  have distinct := Palette.nodup_ofRules rules
  have holds := Palette.Tables.holds_ofRules rules
  refine {
    zero := Palette.get?_zero_ofRules rules
    inverse := fun id c => Palette.get?_eq_some_iff.trans (Palette.idOf?_eq_some_iff distinct).symm
    held := Palette.colors_ofRules rules
    numbers := fun i c => Palette.idOf?_ofRules_succ
    parsed := fun c => ?_
    length := Palette.length_ofRules rules
    keys := ClassMap.keys_ofRules rules
    painted := fun c => ClassMap.get?_isSome_iff
    numbered := fun c keyed => ?_
    slots := holds.slots
    ids := holds.ids
    words := Palette.Tables.inverse_iff rules }
  · rw [← Rule.mem_distinctColors]
    constructor
    · rintro ⟨id, number⟩
      exact Palette.mem_of_idOf?_ofRules number
    · intro member
      obtain ⟨i, number⟩ := Palette.exists_idOf?_ofRules member
      exact ⟨i + 1, number⟩
  · obtain ⟨r, member, paints⟩ := ClassMap.get?_isSome_iff.mp keyed
    exact Palette.exists_idOf?_ofRules (Rule.mem_distinctColors.mpr ⟨r, member, .inl paints⟩)

/-- Another spelling of a color and a text that is no color take no number. -/
example : (Palette.ofRules [
    { foreground := some "#F00", background := some "#00F" },
    { foreground := some "red", background := some "#ff0000" }]).colors =
      [.rgb 255 0 0, .rgb 0 0 255] := by
  decide +kernel

end TokenTheme
