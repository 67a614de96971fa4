/-!
# Dictionaries

Finite maps from names to values, kept in the order of the names, so that two dictionaries with
the same bindings are equal. Main statements: `get?_insert`, and `ofList_entries`, which says that
the entries determine the dictionary.
-/
namespace TokenTheme

/-- A finite map whose names ascend. -/
structure Dict (α : Type) where
  entries : List (String × α)
  ascending : entries.Pairwise (fun a b => a.1 < b.1)

namespace Dict

variable {α β : Type}

def empty : Dict α := ⟨[], .nil⟩

instance : Inhabited (Dict α) := ⟨empty⟩

@[ext] theorem ext {d e : Dict α} (h : d.entries = e.entries) : d = e := by
  cases d; cases e; simp_all

instance [DecidableEq α] : DecidableEq (Dict α) := fun d e =>
  if h : d.entries = e.entries then .isTrue (Dict.ext h) else .isFalse fun he => h (he ▸ rfl)

/-- Binds a name in an ascending list, in its place; an earlier binding of it is replaced. -/
def insertEntry (name : String) (value : α) : List (String × α) → List (String × α)
  | [] => [(name, value)]
  | (other, kept) :: rest =>
    if name < other then (name, value) :: (other, kept) :: rest
    else if name = other then (name, value) :: rest
    else (other, kept) :: insertEntry name value rest

theorem mem_insertEntry {name : String} {value : α} {l : List (String × α)} {e : String × α}
    (h : e ∈ insertEntry name value l) : e = (name, value) ∨ e ∈ l := by
  induction l with
  | nil => simp_all [insertEntry]
  | cons p rest ih =>
    simp only [insertEntry] at h
    split at h
    · simpa using h
    · split at h
      · rcases List.mem_cons.mp h with h | h
        · exact .inl h
        · exact .inr (List.mem_cons_of_mem _ h)
      · rcases List.mem_cons.mp h with h | h
        · exact .inr (h ▸ List.mem_cons_self)
        · rcases ih h with h | h
          · exact .inl h
          · exact .inr (List.mem_cons_of_mem _ h)

theorem pairwise_insertEntry {name : String} {value : α} {l : List (String × α)}
    (h : l.Pairwise (fun a b => a.1 < b.1)) :
    (insertEntry name value l).Pairwise (fun a b => a.1 < b.1) := by
  induction l with
  | nil => simp [insertEntry]
  | cons p rest ih =>
    obtain ⟨first, tail⟩ := List.pairwise_cons.mp h
    simp only [insertEntry]
    split
    · rename_i lt
      refine List.pairwise_cons.mpr ⟨fun e he => ?_, h⟩
      rcases List.mem_cons.mp he with rfl | he
      · exact lt
      · exact String.lt_trans lt (first e he)
    · split
      · rename_i eq
        exact List.pairwise_cons.mpr ⟨fun e he => by simpa [eq] using first e he, tail⟩
      · rename_i ge ne
        refine List.pairwise_cons.mpr ⟨fun e he => ?_, ih tail⟩
        rcases mem_insertEntry he with rfl | he
        · have le : p.1 ≤ name := String.not_lt.mp ge
          exact Decidable.byContradiction fun nlt =>
            ne (String.le_antisymm (String.not_lt.mp nlt) le)
        · exact first e he

def insert (d : Dict α) (name : String) (value : α) : Dict α :=
  ⟨insertEntry name value d.entries, pairwise_insertEntry d.ascending⟩

/-- The dictionary of a list of bindings, of which the last for a name counts. -/
def ofList (l : List (String × α)) : Dict α :=
  l.foldl (fun d e => d.insert e.1 e.2) empty

def get? (d : Dict α) (name : String) : Option α :=
  d.entries.lookup name

/-- The bindings whose value `f` keeps, with the values it gives. -/
def filterMap (f : α → Option β) (d : Dict α) : Dict β :=
  ⟨d.entries.filterMap fun e => (f e.2).map (e.1, ·), by
    refine List.Pairwise.filterMap _ ?_ d.ascending
    intro a b hab c hc e he
    simp only [Option.map_eq_some_iff] at hc he
    obtain ⟨_, _, rfl⟩ := hc
    obtain ⟨_, _, rfl⟩ := he
    exact hab⟩

theorem lookup_cons_entry (e : String × α) (other : String) (l : List (String × α)) :
    (e :: l).lookup other = if other = e.1 then some e.2 else l.lookup other := by
  obtain ⟨name, value⟩ := e
  by_cases h : other = name
  · simp [h]
  · simp [List.lookup_cons, h, beq_false_of_ne h]

theorem lookup_insertEntry (name other : String) (value : α) (l : List (String × α)) :
    (insertEntry name value l).lookup other =
      if other = name then some value else l.lookup other := by
  induction l with
  | nil => simp [insertEntry, lookup_cons_entry]
  | cons p rest ih =>
    simp only [insertEntry]
    split
    · rw [lookup_cons_entry]
    · split
      · rename_i eq
        subst eq
        simp only [lookup_cons_entry]
        split <;> rfl
      · rename_i ne
        simp only [lookup_cons_entry, ih]
        by_cases h : other = name
        · subst h
          simp [ne]
        · simp [h]

theorem get?_insert (d : Dict α) (name other : String) (value : α) :
    (d.insert name value).get? other = if other = name then some value else d.get? other :=
  lookup_insertEntry name other value d.entries

theorem insertEntry_last {name : String} {value : α} {l : List (String × α)}
    (h : ∀ e ∈ l, e.1 < name) : insertEntry name value l = l ++ [(name, value)] := by
  induction l with
  | nil => rfl
  | cons p rest ih =>
    have lt := h p List.mem_cons_self
    have ge : ¬ name < p.1 := String.lt_asymm lt
    have ne : ¬ name = p.1 := fun eq => String.lt_irrefl _ (eq ▸ lt)
    simp [insertEntry, ge, ne, ih fun e he => h e (List.mem_cons_of_mem _ he)]

theorem foldl_insert_entries (d : Dict α) (l : List (String × α))
    (h : (d.entries ++ l).Pairwise (fun a b => a.1 < b.1)) :
    (l.foldl (fun d e => d.insert e.1 e.2) d).entries = d.entries ++ l := by
  induction l generalizing d with
  | nil => simp
  | cons p rest ih =>
    have below : ∀ e ∈ d.entries, e.1 < p.1 := fun e he =>
      (List.pairwise_append.mp h).2.2 e he p List.mem_cons_self
    have step : (d.insert p.1 p.2).entries = d.entries ++ [p] := insertEntry_last below
    rw [List.foldl_cons, ih _ (by rw [step]; simpa using h), step]
    simp

theorem ofList_entries (d : Dict α) : ofList d.entries = d :=
  Dict.ext (foldl_insert_entries empty d.entries d.ascending)

end Dict

end TokenTheme
