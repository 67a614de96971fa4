import Mathlib
import TokenTheme.Json.Shape
import TokenTheme.Results
/-!
# Values that are read back

What `collect` makes of the values that are written, and how a shape reads them: a byte and a
dictionary give themselves, a list its items, and a record takes one member after the other.
-/
namespace TokenTheme.Json

variable {α β σ : Type}

theorem collectItems_eq_map (items : List Json) : collectItems items = items.map collect := by
  induction items with
  | nil => rfl
  | cons j rest ih => rw [collectItems, ih, List.map_cons]

theorem collectMembers_eq_foldl (members : List (String × Json)) (d : Dict Json) :
    collectMembers members d = members.foldl (fun d e => d.insert e.1 e.2.collect) d := by
  induction members generalizing d with
  | nil => rfl
  | cons e rest ih =>
    obtain ⟨name, j⟩ := e
    rw [collectMembers, ih, List.foldl_cons]

theorem collect_ofDict {d : Dict Json} (collected : ∀ e ∈ d.entries, e.2.collect = e.2) :
    (ofDict d).collect = ofDict d := by
  have same : d.entries.foldl (fun d e => d.insert e.1 e.2.collect) .empty = d := by
    refine Eq.trans ?_ d.ofList_entries
    exact List.foldl_ext _ _ _ fun d' e member => by rw [collected e member]
  show ofDict (collectMembers d.entries .empty) = ofDict d
  rw [collectMembers_eq_foldl, same]

namespace Shape

theorem decode_byte (b : UInt8) : byte.decode (.ofNat b.toNat) = .ok b := by
  have bound := b.toNat_lt
  simp only [byte, byteOf, ofNat]
  rw [if_pos (by omega), Int.toNat_natCast]
  exact congrArg Except.ok UInt8.ofNat_toNat

theorem decodeEntries_any (entries : List (String × Json)) (d : Dict Json) :
    decodeEntries any entries d = .ok (entries.foldl (fun d e => d.insert e.1 e.2) d) := by
  induction entries generalizing d with
  | nil => rfl
  | cons e rest ih =>
    obtain ⟨name, j⟩ := e
    exact ih (d.insert name j)

theorem decode_dict (d : Dict Json) : (dict any).decode (ofDict d) = .ok d := by
  show decodeEntries any d.entries .empty = .ok d
  rw [decodeEntries_any]
  exact congrArg Except.ok d.ofList_entries

theorem decode_list {shape : Shape α} {f : α → Json} (items : List α)
    (read : ∀ a ∈ items, shape.decode (f a) = .ok a) :
    (list shape).decode (.array (items.map f)) = .ok items := by
  show (items.map f).mapM shape.decode = .ok items
  induction items with
  | nil => rfl
  | cons a rest ih =>
    obtain ⟨first, others⟩ := List.forall_mem_cons.mp read
    rw [List.map_cons, List.mapM_cons, first, ih others]
    rfl

/-- A member for a field that was not given yet goes into the record. -/
theorem decodeMembers_cons {fields : List (Field σ)} {name : String} {j : Json}
    {rest : List (String × Json)} {s : σ} {given : List String} {presence : Presence}
    {shape : Shape α} {put : α → σ → σ} {a : α}
    (field : fields.find? (·.name = name) = some (.of name presence shape put))
    (new : name ∉ given) (read : shape.decode j = .ok a) :
    decodeMembers fields ((name, j) :: rest) ⟨s, given⟩ =
      decodeMembers fields rest ⟨put a s, name :: given⟩ := by
  have member : decodeMember fields ⟨s, given⟩ name j = .ok ⟨put a s, name :: given⟩ := by
    unfold decodeMember
    simp only [field, if_neg new, Field.of, read]
    rfl
  rw [decodeMembers, member]
  rfl

end Shape

end TokenTheme.Json
