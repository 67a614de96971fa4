import Mathlib
import TokenTheme.Proofs.Dict
import TokenTheme.Proofs.Json.Records
/-!
# Records read by name

A record that stands in an object is read member by member, in the order in which these were
written. What it comes to is told by names alone (`decode?_object`): every field looks up its value,
and a field without one keeps what the blank record has. An object that gives a field twice is
refused (`once_of_decode?`). A record that stands in an array is told by the order of its fields
(`decode?_array`). Causes of failure are left out of account here.
-/
namespace TokenTheme

/-- A step that may as well be taken before as after the others. -/
theorem foldlM_bind_comm {σ α : Type} {step : σ → α → Option σ} {first : σ → Option σ}
    {items : List α}
    (comm : ∀ a ∈ items, ∀ s, ((first s).bind fun s => step s a) = (step s a).bind first) (s : σ) :
    (items.foldlM step s).bind first = (first s).bind (items.foldlM step) := by
  induction items generalizing s with
  | nil => exact (Option.bind_fun_some _).symm
  | cons a rest ih =>
    obtain ⟨now, later⟩ := List.forall_mem_cons.mp comm
    have others := ih later
    calc ((a :: rest).foldlM step s).bind first
        = (step s a).bind fun s => (rest.foldlM step s).bind first := by
          rw [List.foldlM_cons]
          exact Option.bind_assoc ..
      _ = (step s a).bind fun s => (first s).bind (rest.foldlM step) := by
          rw [funext others]
      _ = ((step s a).bind first).bind (rest.foldlM step) := (Option.bind_assoc ..).symm
      _ = (first s).bind ((a :: rest).foldlM step) := by
          rw [← now, Option.bind_assoc]
          rfl

namespace Json

variable {α σ : Type}

def Shape.decode? (shape : Shape α) (j : Json) : Option α := (shape.decode j).toOption

namespace Field

/-- What a field adds to a record: what the value under its name stands for. A field without a
value adds nothing; it may not be missing if it is required, unless it was given before. -/
def take (given : List String) (members : List (String × Json)) (s : σ) (field : Field σ) :
    Option σ :=
  match members.lookup field.name with
  | some j => (field.decode j s).toOption
  | none => if field.presence = .required ∧ field.name ∉ given then none else some s

theorem take_cons_of_ne {field : Field σ} {name : String} (other : field.name ≠ name)
    (given : List String) (j : Json) (rest : List (String × Json)) (s : σ) :
    field.take given ((name, j) :: rest) s = field.take (name :: given) rest s := by
  unfold Field.take
  rw [Dict.lookup_cons_entry, if_neg other]
  simp only [List.mem_cons, other, false_or]

theorem take_cons_self (field : Field σ) (given : List String) (j : Json)
    (rest : List (String × Json)) (s : σ) :
    field.take given ((field.name, j) :: rest) s = (field.decode j s).toOption := by
  unfold Field.take
  rw [List.lookup_cons_self]

theorem take_of_given {field : Field σ} {given : List String} (known : field.name ∈ given)
    {members : List (String × Json)} (absent : members.lookup field.name = none) (s : σ) :
    field.take given members s = some s := by
  unfold Field.take
  rw [absent]
  exact if_neg fun missing => missing.2 known

structure Apart (f g : Field σ) : Prop where
  names : f.name ≠ g.name
  decode : ∀ i j s, ((f.decode i s).toOption.bind fun s => (g.decode j s).toOption) =
    (g.decode j s).toOption.bind fun s => (f.decode i s).toOption

theorem Apart.take {f g : Field σ} (apart : f.Apart g) (given : List String)
    (members : List (String × Json)) (j : Json) (s : σ) :
    ((g.decode j s).toOption.bind fun s => f.take given members s) =
      (f.take given members s).bind fun s => (g.decode j s).toOption := by
  unfold Field.take
  cases members.lookup f.name with
  | some i => exact (apart.decode i j s).symm
  | none =>
    dsimp only
    split
    · exact Option.bind_fun_none _
    · exact Option.bind_fun_some _

end Field

namespace Shape

theorem decode?_list (shape : Shape α) (items : List Json) :
    (list shape).decode? (.array items) = items.mapM shape.decode? :=
  toOption_mapM shape.decode items

def optional (shape : Shape α) (members : List (String × Json)) (name : String) (blank : α) :
    Option α :=
  match members.lookup name with
  | some j => shape.decode? j
  | none => some blank

def required (shape : Shape α) (members : List (String × Json)) (name : String) : Option α :=
  (members.lookup name).bind shape.decode?

theorem apart_of {β : Type} {name name' : String} {presence presence' : Presence} {shape : Shape α}
    {shape' : Shape β} {put : α → σ → σ} {put' : β → σ → σ} (names : name ≠ name')
    (comm : ∀ a b s, put' b (put a s) = put a (put' b s)) :
    (Field.of name presence shape put).Apart (Field.of name' presence' shape' put') where
  names := names
  decode i j s := by
    show (((put · s) <$> shape.decode i).toOption.bind fun s =>
        ((put' · s) <$> shape'.decode j).toOption) =
      ((put' · s) <$> shape'.decode j).toOption.bind fun s =>
        ((put · s) <$> shape.decode i).toOption
    simp only [toOption_map]
    cases (shape.decode i).toOption <;> cases (shape'.decode j).toOption <;> simp [comm]

/-- A record whose fields look up their values by name, in the order of the fields. -/
def byName (fields : List (Field σ)) (given : List String) (members : List (String × Json))
    (s : σ) : Option σ :=
  fields.foldlM (Field.take given members) s

theorem byName_congr {fields : List (Field σ)} {given given' : List String}
    {members members' : List (String × Json)}
    (same : ∀ field ∈ fields, ∀ s, field.take given members s = field.take given' members' s)
    (s : σ) : byName fields given members s = byName fields given' members' s := by
  unfold byName
  induction fields generalizing s with
  | nil => rfl
  | cons field rest ih =>
    obtain ⟨first, others⟩ := List.forall_mem_cons.mp same
    rw [List.foldlM_cons, List.foldlM_cons, first, funext (ih others)]

theorem byName_append (before after : List (Field σ)) (given : List String)
    (members : List (String × Json)) (s : σ) :
    byName (before ++ after) given members s =
      (byName before given members s).bind (byName after given members) :=
  List.foldlM_append

theorem byName_cons_field (field : Field σ) (after : List (Field σ)) (given : List String)
    (members : List (String × Json)) (s : σ) :
    byName (field :: after) given members s =
      (field.take given members s).bind (byName after given members) :=
  List.foldlM_cons

theorem byName_nil (given : List String) (members : List (String × Json)) (s : σ) :
    byName [] given members s = some s := rfl

theorem byName_required (name : String) (shape : Shape α) (put : α → σ → σ) (rest : List (Field σ))
    (members : List (String × Json)) (s : σ) :
    byName (.of name .required shape put :: rest) [] members s =
      (shape.required members name).bind fun a => byName rest [] members (put a s) := by
  rw [byName_cons_field]
  simp only [Field.take, Field.of, Shape.required]
  cases members.lookup name with
  | none => rfl
  | some j =>
    dsimp only
    rw [toOption_map, Option.bind_map]
    rfl

/-- Where a field is missing the record stays as it is, so its blank must be there. -/
theorem byName_optional (name : String) (shape : Shape α) (put : α → σ → σ) (rest : List (Field σ))
    (members : List (String × Json)) {blank : α} {s : σ} (blank_record : put blank s = s) :
    byName (.of name .optional shape put :: rest) [] members s =
      (shape.optional members name blank).bind fun a => byName rest [] members (put a s) := by
  rw [byName_cons_field]
  simp only [Field.take, Field.of, Shape.optional]
  cases members.lookup name with
  | none =>
    show byName rest [] members s = byName rest [] members (put blank s)
    rw [blank_record]
  | some j =>
    dsimp only
    rw [toOption_map, Option.bind_map]
    rfl

theorem byName_cons {before after : List (Field σ)} {field : Field σ}
    (apart : (before ++ field :: after).Pairwise Field.Apart) {given : List String} {j : Json}
    {rest : List (String × Json)} (new : field.name ∉ rest.map (·.1)) (s : σ) :
    byName (before ++ field :: after) given ((field.name, j) :: rest) s =
      (field.decode j s).toOption.bind
        (byName (before ++ field :: after) (field.name :: given) rest) := by
  obtain ⟨-, later, earlier⟩ := List.pairwise_append.mp apart
  have front : ∀ s, byName before given ((field.name, j) :: rest) s =
      byName before (field.name :: given) rest s :=
    byName_congr fun g member =>
      Field.take_cons_of_ne (earlier g member field List.mem_cons_self).names _ _ _
  have back : ∀ s, byName after given ((field.name, j) :: rest) s =
      byName after (field.name :: given) rest s :=
    byName_congr fun g member =>
      Field.take_cons_of_ne (Ne.symm ((List.pairwise_cons.mp later).1 g member).names) _ _ _
  have passed : ∀ s, byName (field :: after) (field.name :: given) rest s =
      byName after (field.name :: given) rest s := by
    intro s
    rw [byName_cons_field, Field.take_of_given List.mem_cons_self (lookup_eq_none_iff.mpr new)]
    rfl
  calc byName (before ++ field :: after) given ((field.name, j) :: rest) s
      = (byName before (field.name :: given) rest s).bind fun s =>
          (field.decode j s).toOption.bind (byName after (field.name :: given) rest) := by
        rw [byName_append, front]
        congr 1
        funext s
        rw [byName_cons_field, Field.take_cons_self, funext back]
    _ = ((byName before (field.name :: given) rest s).bind fun s =>
          (field.decode j s).toOption).bind (byName after (field.name :: given) rest) :=
        (Option.bind_assoc ..).symm
    _ = ((field.decode j s).toOption.bind (byName before (field.name :: given) rest)).bind
          (byName after (field.name :: given) rest) := by
        unfold byName
        rw [foldlM_bind_comm fun g member s =>
          (earlier g member field List.mem_cons_self).take _ _ _ _]
    _ = _ := by
        rw [Option.bind_assoc]
        congr 1
        funext s
        rw [byName_append, funext passed]

/-! ### Objects that name no field twice -/

def Once (names present : List String) : Prop := ∀ name ∈ names, present.count name ≤ 1

theorem once_of_nodup {present : List String} (distinct : present.Nodup) (names : List String) :
    Once names present :=
  fun name _ => List.nodup_iff_count_le_one.mp distinct name

theorem once_middle {names given rest : List String} {name : String} :
    Once names (given ++ name :: rest) ↔ Once names (name :: given ++ rest) := by
  unfold Once
  simp only [List.perm_middle.count_eq, List.cons_append]

theorem once_cons_of_not_mem {names present : List String} {name : String}
    (unknown : name ∉ names) : Once names (name :: present) ↔ Once names present := by
  refine forall₂_congr fun other member => ?_
  have different : name ≠ other := fun same => unknown (same ▸ member)
  rw [List.count_cons_of_ne different]

theorem once_cons_of_mem {names present : List String} {name : String} (known : name ∈ names)
    (once : Once names (name :: present)) : name ∉ present := by
  have few := once name known
  rw [List.count_cons_self] at few
  exact List.count_eq_zero.mp (by omega)

theorem once_cons_of_new {names present : List String} {name : String} (new : name ∉ present) :
    Once names (name :: present) ↔ Once names present := by
  refine forall₂_congr fun other member => ?_
  rw [List.count_cons]
  split
  · rename_i same
    rw [← eq_of_beq same, List.count_eq_zero.mpr new]
    decide
  · rfl

theorem complete_toOption (p : Partial σ) (fields : List (Field σ)) :
    (p.complete fields).toOption = byName fields p.given [] p.record := by
  unfold Partial.complete
  induction fields with
  | nil => rfl
  | cons field rest ih =>
    rw [byName_cons_field, List.find?_cons]
    unfold Field.take
    by_cases missing : field.presence = .required ∧ field.name ∉ p.given
    · simp [missing, Except.toOption]
    · have passed :
          (decide (field.presence = .required) && decide (field.name ∉ p.given)) = false := by
        simpa using missing
      rw [passed]
      simpa [missing] using ih

theorem find?_name_eq_none_iff {fields : List (Field σ)} {name : String} :
    fields.find? (·.name = name) = none ↔ name ∉ fields.map (·.name) := by
  simp

/-- What a record makes of the members of an object, in whatever order they stand. The induction
goes along the members: the first one is taken before the fields in front of its own. -/
theorem toOption_decodeMembers {fields : List (Field σ)} (apart : fields.Pairwise Field.Apart)
    {members : List (String × Json)} {p : Partial σ}
    (once : Once (fields.map (·.name)) (p.given ++ members.map (·.1))) :
    (decodeMembers fields members p >>= (·.complete fields)).toOption =
      byName fields p.given members p.record := by
  induction members generalizing p with
  | nil => exact complete_toOption p fields
  | cons e rest ih =>
    obtain ⟨name, j⟩ := e
    have moved := once_middle.mp once
    rw [decodeMembers, bind_assoc, toOption_bind]
    unfold decodeMember
    cases found : fields.find? (·.name = name) with
    | none =>
      have unknown := find?_name_eq_none_iff.mp found
      show (decodeMembers fields rest p >>= _).toOption = _
      rw [ih ((once_cons_of_not_mem unknown).mp moved)]
      refine byName_congr (fun field member s => ?_) p.record
      have other : field.name ≠ name := fun same => unknown (List.mem_map.mpr ⟨field, member, same⟩)
      unfold Field.take
      rw [Dict.lookup_cons_entry, if_neg other]
    | some field =>
      obtain ⟨named, before, after, rfl, -⟩ := List.find?_eq_some_iff_append.mp found
      obtain rfl : field.name = name := of_decide_eq_true named
      have known : field.name ∈ (before ++ field :: after).map (·.name) :=
        List.mem_map_of_mem (List.mem_append_right _ List.mem_cons_self)
      have new : field.name ∉ p.given ++ rest.map (·.1) := once_cons_of_mem known moved
      rw [List.mem_append, not_or] at new
      rw [byName_cons apart new.2]
      simp only [if_neg new.1]
      rw [toOption_bind, Option.bind_assoc]
      congr 1
      funext s
      exact ih (p := ⟨s, field.name :: p.given⟩) moved

theorem once_of_decodeMembers {fields : List (Field σ)} {members : List (String × Json)}
    {p p' : Partial σ} (once : Once (fields.map (·.name)) p.given)
    (ok : decodeMembers fields members p = .ok p') :
    Once (fields.map (·.name)) (p.given ++ members.map (·.1)) := by
  induction members generalizing p with
  | nil => simpa using once
  | cons e rest ih =>
    obtain ⟨name, j⟩ := e
    obtain ⟨q, taken, ok⟩ := bind_ok ok
    refine once_middle.mpr ?_
    unfold decodeMember at taken
    cases found : fields.find? (·.name = name) with
    | none =>
      rw [found] at taken
      cases taken
      exact (once_cons_of_not_mem (find?_name_eq_none_iff.mp found)).mpr (ih once ok)
    | some field =>
      rw [found] at taken
      dsimp only at taken
      split at taken
      · cases taken
      rename_i new
      obtain ⟨s, -, taken⟩ := bind_ok taken
      cases taken
      exact ih ((once_cons_of_new new).mpr once) ok

theorem decode?_object {name : String} {blank : σ} {fields : List (Field σ)}
    (apart : fields.Pairwise Field.Apart) {members : List (String × Json)}
    (once : Once (fields.map (·.name)) (members.map (·.1))) :
    (record name blank fields).decode? (.object members) = byName fields [] members blank :=
  toOption_decodeMembers apart (p := ⟨blank, []⟩) once

theorem once_of_decode? {name : String} {blank s : σ} {fields : List (Field σ)}
    {members : List (String × Json)}
    (accepted : (record name blank fields).decode? (.object members) = some s) :
    Once (fields.map (·.name)) (members.map (·.1)) := by
  obtain ⟨p, taken, -⟩ := bind_ok (toOption_eq_some_iff.mp accepted)
  exact once_of_decodeMembers (p := ⟨blank, []⟩) (fun _ _ => Nat.zero_le _) taken

theorem decode?_of_not_once {name : String} {blank : σ} {fields : List (Field σ)}
    {members : List (String × Json)} (twice : ¬ Once (fields.map (·.name)) (members.map (·.1))) :
    (record name blank fields).decode? (.object members) = none :=
  Option.eq_none_iff_forall_ne_some.mpr fun _ accepted => twice (once_of_decode? accepted)

/-- Two objects that give fields twice, both or neither, need only be compared if they do not. -/
theorem decode?_of_once {name : String} {blank : σ} {fields : List (Field σ)}
    {members members' : List (String × Json)} {h : Option σ → Option σ} (refused : h none = none)
    (same : Once (fields.map (·.name)) (members'.map (·.1)) ↔
      Once (fields.map (·.name)) (members.map (·.1)))
    (read : Once (fields.map (·.name)) (members.map (·.1)) →
      (record name blank fields).decode? (.object members') =
        h ((record name blank fields).decode? (.object members))) :
    (record name blank fields).decode? (.object members') =
      h ((record name blank fields).decode? (.object members)) := by
  by_cases once : Once (fields.map (·.name)) (members.map (·.1))
  · exact read once
  · rw [decode?_of_not_once once, decode?_of_not_once (mt same.mp once), refused]

/-! ### Records in arrays -/

/-- A record whose fields take the items of an array in their order. Fields that it may do without
may be missing at the end. -/
def byOrder : List (Field σ) → List Json → σ → Option σ
  | [], [], s => some s
  | [], _ :: _, _ => none
  | field :: fields, [], s => if field.presence = .optional then byOrder fields [] s else none
  | field :: fields, item :: items, s => (field.decode item s).toOption.bind (byOrder fields items)

theorem byOrder_cons_of (name : String) (presence : Presence) (shape : Shape α) (put : α → σ → σ)
    (fields : List (Field σ)) (item : Json) (items : List Json) (s : σ) :
    byOrder (.of name presence shape put :: fields) (item :: items) s =
      (shape.decode? item).bind fun a => byOrder fields items (put a s) := by
  show ((put · s) <$> shape.decode item).toOption.bind (byOrder fields items) = _
  rw [toOption_map, Option.bind_map]
  rfl

theorem toOption_decodeItems (name : String) (count : Nat) (fields : List (Field σ))
    (length index : Nat) (items : List Json) (s : σ) :
    (decodeItems name count index fields items s >>= fun
      | (s, []) => .ok s
      | (_, _ :: _) => .error (.long length)).toOption = byOrder fields items s := by
  induction fields generalizing index items s with
  | nil => cases items <;> rfl
  | cons field fields ih =>
    cases items with
    | nil =>
      unfold decodeItems byOrder
      split
      · exact ih (index + 1) [] s
      · rfl
    | cons item items =>
      unfold decodeItems byOrder
      rw [bind_assoc, toOption_bind]
      congr 1
      funext s
      exact ih (index + 1) items s

theorem decode?_array {name : String} {blank : σ} {fields : List (Field σ)} (items : List Json) :
    (record name blank fields).decode? (.array items) = byOrder fields items blank :=
  toOption_decodeItems name fields.length fields items.length 0 items blank

end Shape

end Json

end TokenTheme
