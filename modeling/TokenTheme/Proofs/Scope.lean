import Mathlib
import TokenTheme.Scope
/-!
# Candidates by segments

Which classes are tried for a stack of scopes, said by the segments of the scopes instead of the
places of their dots. `resolveClass_eq_find?` shows that the first known one of these is the class
that is picked, wherever the dots of a scope stand.
-/
namespace TokenTheme.Scope

def join (parts : List (List Char)) : List Char := ['.'].intercalate parts

/-- The proper beginnings of a scope by its segments, one fewer each time. -/
def shorter (parts : List (List Char)) : List String :=
  (List.range' 1 (parts.length - 1)).reverse.map fun n => String.ofList (join (parts.take n))

/-- The candidates of one scope: its first segments, one fewer each time, with the suffix and then
alone. -/
def shortened (suffix : List Char) (parts : List (List Char)) : List String :=
  (List.range' 1 (parts.length - 1)).reverse.flatMap fun n =>
    [String.ofList (join (parts.take n)) ++ "." ++ String.ofList suffix,
      String.ofList (join (parts.take n))]

def candidatesBySegments (scopes : List String) : List String :=
  match scopes.getLast? with
  | none => []
  | some innermost =>
    scopes.reverse.flatMap fun scope =>
      shortened ((segments innermost).getLastD []) (segments scope)

/-! ### Segments -/

theorem splitOn_dot (rest : List Char) : ('.' :: rest).splitOn '.' = [] :: rest.splitOn '.' := by
  simp [List.splitOn_eq_splitOnP, List.splitOnP_cons_eq_if_modifyHead]

theorem splitOn_of_ne {c : Char} (other : c ≠ '.') (rest : List Char) :
    (c :: rest).splitOn '.' = (rest.splitOn '.').modifyHead (c :: ·) := by
  simp [List.splitOn_eq_splitOnP, List.splitOnP_cons_eq_if_modifyHead, other]

theorem splitOn_of_not_mem {s : List Char} (plain : '.' ∉ s) : s.splitOn '.' = [s] := by
  have single : (['.'].intercalate [s]).splitOn '.' = [s] :=
    List.splitOn_intercalate '.' (by simpa using plain) (by simp)
  simpa using single

theorem splitOn_append_cons (c : Char) (s t : List Char) :
    (s ++ c :: t).splitOn c = s.splitOn c ++ t.splitOn c := by
  simp only [List.splitOn_eq_splitOnP]
  exact List.splitOnP_append_cons s t (beq_self_eq_true c)

theorem join_cons (s : List Char) {parts : List (List Char)} (more : parts ≠ []) :
    join (s :: parts) = s ++ '.' :: join parts := by
  obtain ⟨t, rest, rfl⟩ := List.exists_cons_of_ne_nil more
  simp [join, List.intercalate_cons_cons]

theorem join_modifyHead (c : Char) {parts : List (List Char)} (some_part : parts ≠ []) :
    join (parts.modifyHead (c :: ·)) = c :: join parts := by
  obtain ⟨s, rest, rfl⟩ := List.exists_cons_of_ne_nil some_part
  cases rest with
  | nil => simp [join]
  | cons t rest => simp [join, List.intercalate_cons_cons]

theorem lastSegment_eq (scope : String) :
    lastSegment scope = String.ofList ((segments scope).getLastD []) := by
  unfold lastSegment segments
  congr 1
  generalize scope.toList = s
  have whole := List.takeWhile_append_dropWhile (p := (· ≠ '.')) (l := s.reverse)
  have plain : '.' ∉ (s.reverse.takeWhile (· ≠ '.')).reverse := by
    intro member
    have other := List.mem_takeWhile_imp (List.mem_reverse.mp member)
    simp at other
  cases dropped : s.reverse.dropWhile (· ≠ '.') with
  | nil =>
    rw [dropped, List.append_nil] at whole
    rw [whole, List.reverse_reverse] at plain ⊢
    rw [splitOn_of_not_mem plain]
    rfl
  | cons c before =>
    have dot : c = '.' := by
      have first := List.head?_dropWhile_not (· ≠ '.') s.reverse
      rw [dropped] at first
      simpa using first
    have split : s = before.reverse ++ '.' :: (s.reverse.takeWhile (· ≠ '.')).reverse := by
      rw [dropped, dot] at whole
      have turned := congrArg List.reverse whole
      simpa using turned.symm
    have parts := splitOn_append_cons '.' before.reverse (s.reverse.takeWhile (· ≠ '.')).reverse
    rw [← split, splitOn_of_not_mem plain] at parts
    rw [parts]
    simp

/-! ### Cuts -/

theorem range'_reverse_succ (n : Nat) :
    (List.range' 1 (n + 1)).reverse = (List.range' 1 n).reverse.map (· + 1) ++ [1] := by
  rw [List.range'_succ, List.reverse_cons, List.map_reverse, ← List.range'_succ_left]

/-- The cuts of a scope are its first segments, one fewer each time. The induction goes along the
scope, with what has been passed in front of each cut. -/
theorem cuts_eq (before rest : List Char) :
    cuts before rest = (List.range' 1 ((rest.splitOn '.').length - 1)).reverse.map fun n =>
      before.reverse ++ join ((rest.splitOn '.').take n) := by
  induction rest generalizing before with
  | nil => rfl
  | cons c rest ih =>
    have some_part := List.splitOn_ne_nil '.' rest
    have long : 0 < (rest.splitOn '.').length := List.length_pos_iff.mpr some_part
    have shorter : ∀ n ∈ (List.range' 1 ((rest.splitOn '.').length - 1)).reverse,
        (rest.splitOn '.').take n ≠ [] := by
      intro n member
      have bound := List.mem_range'_1.mp (List.mem_reverse.mp member)
      simp only [ne_eq, List.take_eq_nil_iff, some_part, or_false]
      omega
    unfold cuts
    by_cases dot : c = '.'
    · subst dot
      obtain ⟨n, count⟩ := Nat.exists_eq_add_one.mpr long
      rw [if_pos rfl, ih, splitOn_dot, List.length_cons, count, Nat.add_sub_cancel,
        Nat.add_sub_cancel, range'_reverse_succ, List.map_append, List.map_map]
      rw [count, Nat.add_sub_cancel] at shorter
      congr 1
      · apply List.map_congr_left
        intro m member
        simp [List.take_succ_cons, join_cons [] (shorter m member)]
      · simp [join]
    · rw [if_neg dot, ih, splitOn_of_ne dot, List.length_modifyHead]
      apply List.map_congr_left
      intro n member
      rw [List.take_modifyHead, join_modifyHead c (shorter n member)]
      simp

theorem beginnings_eq (scope : String) : beginnings scope = shorter (segments scope) := by
  simp only [beginnings, shorter, segments, cuts_eq, List.map_map, List.reverse_nil,
    List.nil_append]
  rfl

theorem candidates_eq (scopes : List String) : candidates scopes = candidatesBySegments scopes := by
  unfold candidates candidatesBySegments
  cases scopes.getLast? with
  | none => rfl
  | some innermost =>
    have each : ∀ scope,
        (beginnings scope).flatMap (fun b => [b ++ "." ++ lastSegment innermost, b]) =
          shortened ((segments innermost).getLastD []) (segments scope) := by
      intro scope
      rw [lastSegment_eq]
      simp only [beginnings, shortened, segments, cuts_eq, List.reverse_nil, List.nil_append,
        List.flatMap_map, List.map_map]
      rfl
    simp only [each]

/-- The class of a stack of scopes is the first known one of the candidates by segments, and the
empty class if none is known. -/
theorem resolveClass_eq_find? (known scopes : List String) :
    resolveClass known scopes =
      ((candidatesBySegments scopes).find? fun c => decide (c ∈ known)).getD "" := by
  unfold resolveClass
  rw [candidates_eq]
  simp only [List.contains_eq_mem]

/-- A dot at either end, two in a row, and a scope without any. -/
example : candidatesBySegments [".a..b.", "c"] =
    [".a..b.c", ".a..b", ".a..c", ".a.", ".a.c", ".a", ".c", ""] := by
  decide +kernel

end TokenTheme.Scope
