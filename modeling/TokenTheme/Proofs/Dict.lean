import Mathlib
import TokenTheme.Dict
/-!
# Bindings by name

A list in which no name is bound twice is told by what is looked up in it, and so is a dictionary
(`Dict.ext_get?`).
-/
namespace TokenTheme

variable {α β : Type} {name : String} {a : α} {entries : List (String × α)}

theorem mem_of_lookup (found : entries.lookup name = some a) : (name, a) ∈ entries := by
  obtain ⟨before, after, rfl, -⟩ := List.lookup_eq_some_iff.mp found
  exact List.mem_append_right _ List.mem_cons_self

theorem lookup_of_mem (distinct : (entries.map (·.1)).Nodup) (member : (name, a) ∈ entries) :
    entries.lookup name = some a := by
  obtain ⟨before, after, rfl⟩ := List.append_of_mem member
  refine List.lookup_eq_some_iff.mpr ⟨before, after, rfl, ?_⟩
  intro entry early
  rw [List.map_append, List.nodup_append] at distinct
  have different := distinct.2.2 entry.1 (List.mem_map_of_mem early) name (by simp)
  simpa using Ne.symm different

theorem lookup_eq_none_iff : entries.lookup name = none ↔ name ∉ entries.map (·.1) := by
  simp only [List.lookup_eq_none_iff, bne_iff_ne, List.mem_map, not_exists, not_and]
  exact forall₂_congr fun _ _ => ne_comm

theorem lookup_filter_ne (taken : String) :
    (entries.filter (·.1 ≠ taken)).lookup name =
      if name = taken then none else entries.lookup name := by
  induction entries with
  | nil => simp
  | cons entry rest ih =>
    by_cases removed : entry.1 = taken
    · rw [List.filter_cons_of_neg (by simpa using removed), ih, Dict.lookup_cons_entry, removed]
      split <;> rfl
    · rw [List.filter_cons_of_pos (by simpa using removed), Dict.lookup_cons_entry,
        Dict.lookup_cons_entry, ih]
      split
      · rename_i own
        rw [own, if_neg removed]
      · rfl

namespace Dict

theorem nodup_names (d : Dict α) : (d.entries.map (·.1)).Nodup :=
  List.pairwise_map.mpr (d.ascending.imp String.ne_of_lt)

theorem get?_eq_some_iff {d : Dict α} : d.get? name = some a ↔ (name, a) ∈ d.entries :=
  ⟨mem_of_lookup, lookup_of_mem d.nodup_names⟩

/-- Two dictionaries in which the same is found under every name are equal. -/
theorem ext_get? {d e : Dict α} (same : ∀ name, d.get? name = e.get? name) : d = e := by
  have : Std.Irrefl fun a b : String × α => a.1 < b.1 := ⟨fun a => String.lt_irrefl a.1⟩
  have : Std.Antisymm fun a b : String × α => a.1 < b.1 :=
    ⟨fun a b before after => absurd after (String.lt_asymm before)⟩
  refine Dict.ext (d.ascending.eq_of_mem_iff e.ascending fun entry => ?_)
  rw [← get?_eq_some_iff (d := d), ← get?_eq_some_iff (d := e), same]

theorem get?_filterMap (f : α → Option β) (d : Dict α) (name : String) :
    (d.filterMap f).get? name = (d.get? name).bind f := by
  ext b
  rw [get?_eq_some_iff, Option.bind_eq_some_iff]
  simp only [get?_eq_some_iff, filterMap, List.mem_filterMap, Option.map_eq_some_iff,
    Prod.exists, Prod.mk.injEq]
  constructor
  · rintro ⟨_, a, member, _, kept, rfl, rfl⟩
    exact ⟨a, member, kept⟩
  · rintro ⟨a, member, kept⟩
    exact ⟨name, a, member, b, kept, rfl, rfl⟩

theorem get?_ofList (distinct : (entries.map (·.1)).Nodup) (name : String) :
    (ofList entries).get? name = entries.lookup name := by
  unfold ofList
  induction entries using List.reverseRecOn with
  | nil => rfl
  | append_singleton earlier e ih =>
    rw [List.map_append, List.nodup_append] at distinct
    rw [List.foldl_append, List.foldl_cons, List.foldl_nil, get?_insert, ih distinct.1,
      List.lookup_append, lookup_cons_entry, List.lookup_nil]
    split
    · rename_i last
      have new : name ∉ earlier.map (·.1) := fun member =>
        distinct.2.2 name member e.1 (List.mem_map_of_mem List.mem_cons_self) last
      rw [lookup_eq_none_iff.mpr new, Option.none_or]
    · rw [Option.or_none]

end Dict

end TokenTheme
