import Mathlib
import TokenTheme.Proofs.Json.Named
/-!
# Places in values

A place is told by the steps that lead to it, into a member of an object or into an item of an
array. At a place a value can be looked at, altered, or relieved of one of its parts. A value is
`Distinct` if no object in it has a name twice, as in every value that was collected.
-/
namespace TokenTheme.Json

inductive Step where
  | member (name : String)
  | item (index : Nat)

abbrev Place := List Step

def part? : Step → Json → Option Json
  | .member name, .object members => members.lookup name
  | .item i, .array items => items[i]?
  | _, _ => none

def at? : Place → Json → Option Json
  | [], j => some j
  | step :: place, j => (j.part? step).bind (at? place)

def alterMember (f : Json → Json) (name : String) (members : List (String × Json)) :
    List (String × Json) :=
  members.map fun e => if e.1 = name then (e.1, f e.2) else e

/-- The members with a value under a name: in place of the one before, or at the end. -/
def setMember (name : String) (j : Json) (members : List (String × Json)) :
    List (String × Json) :=
  if name ∈ members.map (·.1) then alterMember (fun _ => j) name members
  else members ++ [(name, j)]

def alterPart (f : Json → Json) : Step → Json → Json
  | .member name, .object members => .object (alterMember f name members)
  | .item i, .array items => .array (items.modify i f)
  | _, j => j

def alter (f : Json → Json) : Place → Json → Json
  | [], j => f j
  | step :: place, j => j.alterPart (alter f place) step

def dropPart : Step → Json → Json
  | .member name, .object members => .object (members.filter (·.1 ≠ name))
  | .item i, .array items => .array (items.eraseIdx i)
  | _, j => j

variable {f : Json → Json} {name other : String} {members : List (String × Json)} {j k : Json}
  {step : Step}

/-! ### Places -/

theorem part?_member_eq_some_iff : j.part? (.member name) = some k ↔
    ∃ members, j = .object members ∧ members.lookup name = some k := by
  cases j with
  | object members => exact ⟨fun held => ⟨members, rfl, held⟩, fun ⟨_, rfl, held⟩ => held⟩
  | _ => exact ⟨nofun, nofun⟩

theorem at?_single (step : Step) (j : Json) : j.at? [step] = j.part? step :=
  Option.bind_fun_some _

theorem at?_append (place within : Place) (j : Json) :
    j.at? (place ++ within) = (j.at? place).bind (at? within) := by
  induction place generalizing j with
  | nil => rfl
  | cons step place ih =>
    show (j.part? step).bind (at? (place ++ within)) = ((j.part? step).bind (at? place)).bind _
    rw [Option.bind_assoc, funext ih]

theorem at?_append_eq_some_iff {place within : Place} : j.at? (place ++ within) = some k ↔
    ∃ part, j.at? place = some part ∧ part.at? within = some k := by
  rw [at?_append, Option.bind_eq_some_iff]

/-! ### Members -/

theorem names_alterMember (f : Json → Json) (name : String) (members : List (String × Json)) :
    (alterMember f name members).map (·.1) = members.map (·.1) := by
  unfold alterMember
  rw [List.map_map]
  refine List.map_congr_left fun e _ => ?_
  dsimp only [Function.comp]
  split <;> rfl

theorem lookup_alterMember (f : Json → Json) (name other : String)
    (members : List (String × Json)) : (alterMember f name members).lookup other =
      if other = name then (members.lookup other).map f else members.lookup other := by
  induction members with
  | nil => simp [alterMember]
  | cons e rest ih =>
    show ((if e.1 = name then (e.1, f e.2) else e) :: alterMember f name rest).lookup other = _
    have first : (if e.1 = name then (e.1, f e.2) else e).1 = e.1 := by split <;> rfl
    rw [Dict.lookup_cons_entry, Dict.lookup_cons_entry, first, ih]
    by_cases here : other = e.1
    · rw [if_pos here, if_pos here, here]
      split <;> rfl
    · rw [if_neg here, if_neg here]

theorem lookup_alterMember_of_ne (different : other ≠ name) :
    (alterMember f name members).lookup other = members.lookup other := by
  rw [lookup_alterMember, if_neg different]

theorem lookup_setMember (name other : String) (j : Json) (members : List (String × Json)) :
    (setMember name j members).lookup other =
      if other = name then some j else members.lookup other := by
  unfold setMember
  split
  · rename_i present
    rw [lookup_alterMember]
    split
    · rename_i same
      subst same
      cases found : members.lookup other with
      | none => exact absurd present (lookup_eq_none_iff.mp found)
      | some k => rfl
    · rfl
  · rename_i absent
    rw [List.lookup_append, Dict.lookup_cons_entry, List.lookup_nil]
    split
    · rename_i same
      rw [same, lookup_eq_none_iff.mpr absent, Option.none_or]
    · rw [Option.or_none]

theorem lookup_filter_self (name : String) (members : List (String × Json)) :
    (members.filter (·.1 ≠ name)).lookup name = none := by
  refine lookup_eq_none_iff.mpr fun member => ?_
  obtain ⟨e, kept, same⟩ := List.mem_map.mp member
  exact of_decide_eq_true (List.mem_filter.mp kept).2 same

theorem lookup_filter_of_ne (different : other ≠ name) :
    (members.filter (·.1 ≠ name)).lookup other = members.lookup other := by
  induction members with
  | nil => rfl
  | cons e rest ih =>
    rw [List.filter_cons, Dict.lookup_cons_entry]
    split
    · rw [Dict.lookup_cons_entry, ih]
    · rename_i named
      have same : e.1 = name := by simpa using named
      rw [if_neg (same ▸ different), ih]

theorem nodup_filter (distinct : (members.map (·.1)).Nodup) (name : String) :
    ((members.filter (·.1 ≠ name)).map (·.1)).Nodup :=
  distinct.sublist (List.filter_sublist.map _)

/-! ### Values without repeated names -/

inductive Distinct : Json → Prop
  | null : Distinct .null
  | bool (b : Bool) : Distinct (.bool b)
  | number (n : Number) : Distinct (.number n)
  | string (s : String) : Distinct (.string s)
  | array {items : List Json} (each : ∀ j ∈ items, Distinct j) : Distinct (.array items)
  | object {members : List (String × Json)} (names : (members.map (·.1)).Nodup)
      (each : ∀ e ∈ members, Distinct e.2) : Distinct (.object members)

theorem Distinct.names (distinct : (Json.object members).Distinct) : (members.map (·.1)).Nodup := by
  cases distinct with
  | object names each => exact names

theorem Distinct.part (distinct : j.Distinct) (held : j.part? step = some k) : k.Distinct := by
  cases distinct with
  | object names each =>
    cases step with
    | member name => exact each _ (mem_of_lookup held)
    | item i => cases held
  | array each =>
    cases step with
    | member name => cases held
    | item i => exact each k (List.mem_of_getElem? held)
  | _ => cases step <;> cases held

theorem Distinct.at? {place : Place} (distinct : j.Distinct) (held : j.at? place = some k) :
    k.Distinct := by
  induction place generalizing j with
  | nil => exact Option.some.inj held ▸ distinct
  | cons step place ih =>
    obtain ⟨part, first, rest⟩ := Option.bind_eq_some_iff.mp held
    exact ih (distinct.part first) rest

theorem Distinct.alterPart (distinct : j.Distinct) (keeps : ∀ k, k.Distinct → (f k).Distinct)
    (step : Step) : (j.alterPart f step).Distinct := by
  cases distinct with
  | object names each =>
    cases step with
    | item i => exact .object names each
    | member name =>
      refine .object ((names_alterMember f name _).symm ▸ names) fun e member => ?_
      obtain ⟨e', held, rfl⟩ := List.mem_map.mp member
      split
      · exact keeps _ (each e' held)
      · exact each e' held
  | array each =>
    cases step with
    | member name => exact .array each
    | item i =>
      refine .array fun k member => ?_
      obtain ⟨n, held⟩ := List.mem_iff_getElem?.mp member
      rw [List.getElem?_modify] at held
      obtain ⟨k', was, rfl⟩ := Option.map_eq_some_iff.mp held
      split
      · exact keeps k' (each k' (List.mem_of_getElem? was))
      · exact each k' (List.mem_of_getElem? was)
  | null => cases step <;> exact .null
  | bool b => cases step <;> exact .bool b
  | number n => cases step <;> exact .number n
  | string s => cases step <;> exact .string s

theorem Distinct.alter (distinct : j.Distinct) (keeps : ∀ k, k.Distinct → (f k).Distinct)
    (place : Place) : (j.alter f place).Distinct := by
  induction place generalizing j with
  | nil => exact keeps j distinct
  | cons step place ih => exact distinct.alterPart (fun k below => ih below) step

theorem Distinct.dropPart (distinct : j.Distinct) (step : Step) : (j.dropPart step).Distinct := by
  cases distinct with
  | object names each =>
    cases step with
    | item i => exact .object names each
    | member name =>
      exact .object (nodup_filter names name) fun e member => each e (List.mem_filter.mp member).1
  | array each =>
    cases step with
    | member name => exact .array each
    | item i => exact .array fun k member => each k (List.mem_of_mem_eraseIdx member)
  | null => cases step <;> exact .null
  | bool b => cases step <;> exact .bool b
  | number n => cases step <;> exact .number n
  | string s => cases step <;> exact .string s

theorem mem_entries_foldl_insert {members : List (String × Json)} {d : Dict Json}
    {e : String × Json} (member : e ∈ (members.foldl (fun d e => d.insert e.1 e.2.collect) d).entries) :
    e ∈ d.entries ∨ ∃ e' ∈ members, e.2 = e'.2.collect := by
  induction members generalizing d with
  | nil => exact .inl member
  | cons first rest ih =>
    rcases ih member with early | ⟨e', later, same⟩
    · rcases Dict.mem_insertEntry early with rfl | before
      · exact .inr ⟨first, List.mem_cons_self, rfl⟩
      · exact .inl before
    · exact .inr ⟨e', List.mem_cons_of_mem _ later, same⟩

theorem distinct_collect (j : Json) : j.collect.Distinct := by
  match j with
  | .null => exact .null
  | .bool b => exact .bool b
  | .number n => exact .number n
  | .string s => exact .string s
  | .array items =>
    show (array (collectItems items)).Distinct
    rw [collectItems_eq_map]
    refine .array fun k member => ?_
    obtain ⟨item, held, rfl⟩ := List.mem_map.mp member
    exact distinct_collect item
  | .object members =>
    show (ofDict (collectMembers members .empty)).Distinct
    rw [collectMembers_eq_foldl]
    refine .object (Dict.nodup_names _) fun e member => ?_
    rcases mem_entries_foldl_insert member with none | ⟨e', held, same⟩
    · cases none
    · rw [same]
      exact distinct_collect e'.2
termination_by sizeOf j
decreasing_by
  · have := List.sizeOf_lt_of_mem held
    simp
    omega
  · have := List.sizeOf_lt_of_mem held
    obtain ⟨name, k⟩ := e'
    simp at this ⊢
    omega

/-! ### Shapes of altered values -/

namespace Shape

variable {α : Type} {shape : Shape α} {g : α → α} {i : Nat}

/-- If the items of a list are read as before, but one as what `g` makes of it, so is the list. -/
theorem decode?_alter_item (each : ∀ k, j.part? (.item i) = some k →
      shape.decode? (f k) = (shape.decode? k).map g) :
    (list shape).decode? (j.alterPart f (.item i)) =
      ((list shape).decode? j).map (·.modify i g) := by
  cases j with
  | array items =>
    show (list shape).decode? (.array (items.modify i f)) = _
    rw [decode?_list, decode?_list]
    change ∀ k, items[i]? = some k → _ at each
    induction items generalizing i with
    | nil => cases i <;> rfl
    | cons item rest ih =>
      cases i with
      | zero =>
        rw [List.modify_zero_cons, List.mapM_cons, List.mapM_cons, each item rfl]
        cases shape.decode? item with
        | none => rfl
        | some a => cases rest.mapM shape.decode? <;> rfl
      | succ i =>
        rw [List.modify_succ_cons, List.mapM_cons, List.mapM_cons, ih each]
        cases shape.decode? item with
        | none => rfl
        | some a => cases rest.mapM shape.decode? <;> rfl
  | _ => rfl

theorem required_alter_item (each : ∀ k, (object members).at? [.member name, .item i] = some k →
      shape.decode? (f k) = (shape.decode? k).map g) :
    (list shape).required (alterMember (Json.alter f [.item i]) name members) name =
      ((list shape).required members name).map (·.modify i g) := by
  unfold Shape.required
  rw [lookup_alterMember, if_pos rfl]
  cases held : members.lookup name with
  | none => rfl
  | some j =>
    refine decode?_alter_item fun k part => each k ?_
    exact Option.bind_eq_some_iff.mpr ⟨j, held, (at?_single _ j).trans part⟩

theorem once_setMember {names : List String} :
    Once names ((setMember name j members).map (·.1)) ↔ Once names (members.map (·.1)) := by
  unfold setMember
  split
  · rw [names_alterMember]
  · rename_i absent
    rw [List.map_append]
    refine once_middle.trans ?_
    rw [List.map_nil, List.append_nil]
    exact once_cons_of_new absent

variable {σ : Type} {fields : List (Field σ)}

theorem decodeMember_of_not_mem (unknown : name ∉ fields.map (·.name)) (p : Partial σ) (j : Json) :
    decodeMember fields p name j = .ok p := by
  unfold decodeMember
  rw [find?_name_eq_none_iff.mpr unknown]

theorem decodeMembers_alterMember (unknown : name ∉ fields.map (·.name)) (p : Partial σ) :
    decodeMembers fields (alterMember f name members) p = decodeMembers fields members p := by
  induction members generalizing p with
  | nil => rfl
  | cons e rest ih =>
    show decodeMembers fields
      ((if e.1 = name then (e.1, f e.2) else e) :: alterMember f name rest) p = _
    by_cases named : e.1 = name
    · have unknown' : e.1 ∉ fields.map (·.name) := named ▸ unknown
      rw [if_pos named, decodeMembers, decodeMembers, decodeMember_of_not_mem unknown',
        decodeMember_of_not_mem unknown']
      exact ih p
    · rw [if_neg named, decodeMembers, decodeMembers, funext ih]

theorem decode?_alterMember_of_not_mem {title : String} {blank : σ}
    (unknown : name ∉ fields.map (·.name)) :
    (record title blank fields).decode? (.object (alterMember f name members)) =
      (record title blank fields).decode? (.object members) := by
  show (decodeMembers fields (alterMember f name members) _ >>= _).toOption = _
  rw [decodeMembers_alterMember unknown]
  rfl

end Shape

end TokenTheme.Json
