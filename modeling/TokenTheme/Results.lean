/-!
# Results

What is known when a computation that may fail did not.
-/
namespace TokenTheme

variable {ε δ α β : Type}

theorem bind_ok {x : Except ε α} {f : α → Except ε β} {b : β} (ok : x >>= f = .ok b) :
    ∃ a, x = .ok a ∧ f a = .ok b := by
  cases x with
  | error e => cases ok
  | ok a => exact ⟨a, rfl, ok⟩

theorem bind_error {x : Except ε α} {f : α → Except ε β} {e : ε} (failed : x >>= f = .error e) :
    x = .error e ∨ ∃ a, x = .ok a ∧ f a = .error e := by
  cases x with
  | error e' => exact .inl (congrArg Except.error (Except.error.inj failed))
  | ok a => exact .inr ⟨a, rfl, failed⟩

theorem map_ok {x : Except ε α} {f : α → β} {b : β} (ok : f <$> x = .ok b) :
    ∃ a, x = .ok a ∧ f a = b := by
  cases x with
  | error e => cases ok
  | ok a => exact ⟨a, rfl, Except.ok.inj ok⟩

theorem mapError_ok {x : Except ε α} {f : ε → δ} {a : α} (ok : x.mapError f = .ok a) :
    x = .ok a := by
  cases x with
  | error e => cases ok
  | ok b => exact congrArg Except.ok (Except.ok.inj ok)

theorem mapError_error {x : Except ε α} {f : ε → δ} {d : δ} (failed : x.mapError f = .error d) :
    ∃ e, x = .error e ∧ f e = d := by
  cases x with
  | error e => exact ⟨e, rfl, Except.error.inj failed⟩
  | ok b => cases failed

theorem length_of_mapM_ok {f : α → Except ε β} {xs : List α} {ys : List β}
    (ok : xs.mapM f = .ok ys) : ys.length = xs.length := by
  induction xs generalizing ys with
  | nil =>
    cases ok
    rfl
  | cons x rest ih =>
    rw [List.mapM_cons] at ok
    obtain ⟨y, -, ok⟩ := bind_ok ok
    obtain ⟨others, each, ok⟩ := bind_ok ok
    cases ok
    rw [List.length_cons, List.length_cons, ih each]

/-- What comes of the items of a list stands in the places of these. -/
theorem getElem?_of_mapM_ok {f : α → Except ε β} {xs : List α} {ys : List β}
    (ok : xs.mapM f = .ok ys) (i : Nat) :
    xs[i]? = none ∧ ys[i]? = none ∨
      ∃ x y, xs[i]? = some x ∧ ys[i]? = some y ∧ f x = .ok y := by
  induction xs generalizing ys i with
  | nil =>
    cases ok
    exact .inl ⟨rfl, rfl⟩
  | cons x rest ih =>
    rw [List.mapM_cons] at ok
    obtain ⟨y, made, ok⟩ := bind_ok ok
    obtain ⟨others, each, ok⟩ := bind_ok ok
    cases ok
    cases i with
    | zero => exact .inr ⟨x, y, rfl, rfl, made⟩
    | succ i => exact ih each i

theorem ok_of_mapM_ok {f : α → Except ε β} {xs : List α} {ys : List β} (ok : xs.mapM f = .ok ys)
    {x : α} (member : x ∈ xs) : ∃ y, f x = .ok y := by
  obtain ⟨i, found⟩ := List.mem_iff_getElem?.mp member
  rcases getElem?_of_mapM_ok ok i with ⟨absent, -⟩ | ⟨x', y, present, -, made⟩
  · cases found.symm.trans absent
  · cases found.symm.trans present
    exact ⟨y, made⟩

theorem mem_of_mapM_error {f : α → Except ε β} {xs : List α} {e : ε}
    (failed : xs.mapM f = .error e) : ∃ x ∈ xs, f x = .error e := by
  induction xs with
  | nil => cases failed
  | cons x rest ih =>
    rw [List.mapM_cons] at failed
    rcases bind_error failed with first | ⟨y, -, failed⟩
    · exact ⟨x, List.mem_cons_self, first⟩
    · rcases bind_error failed with later | ⟨others, -, done⟩
      · obtain ⟨x', member, refused⟩ := ih later
        exact ⟨x', List.mem_cons_of_mem x member, refused⟩
      · cases done

/-! ### Results without the cause of a failure -/

theorem toOption_eq_some_iff {x : Except ε α} {a : α} : x.toOption = some a ↔ x = .ok a := by
  cases x with
  | error e => exact ⟨nofun, nofun⟩
  | ok b =>
    exact ⟨fun same => congrArg Except.ok (Option.some.inj same), fun same => by cases same; rfl⟩

theorem eq_ok_getD {x : Except ε α} {a : α} (some_ : x.toOption.isSome) :
    x = .ok (x.toOption.getD a) := by
  cases x with
  | error e => cases some_
  | ok b => rfl

theorem exists_ok_of_toOption_map {x : Except ε α} {f : α → β} {b : β}
    (same : x.toOption.map f = some b) : ∃ a, x = .ok a ∧ f a = b := by
  obtain ⟨a, ok, value⟩ := Option.map_eq_some_iff.mp same
  exact ⟨a, toOption_eq_some_iff.mp ok, value⟩

theorem toOption_bind (x : Except ε α) (f : α → Except ε β) :
    (x >>= f).toOption = x.toOption.bind fun a => (f a).toOption := by
  cases x <;> rfl

theorem toOption_map (x : Except ε α) (f : α → β) : (f <$> x).toOption = x.toOption.map f := by
  cases x <;> rfl

theorem toOption_mapM (f : α → Except ε β) (xs : List α) :
    (xs.mapM f).toOption = xs.mapM fun x => (f x).toOption := by
  induction xs with
  | nil => rfl
  | cons x rest ih =>
    rw [List.mapM_cons, List.mapM_cons, toOption_bind]
    congr 1
    funext y
    rw [toOption_bind, ih]
    rfl

end TokenTheme
