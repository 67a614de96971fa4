import Mathlib
import TokenTheme.Proofs.Provider.Editing
import TokenTheme.Proofs.Provider.Lines
import TokenTheme.Proofs.Theme.Palette
/-!
# One theme for a line

While a provider tokenizes, its channel may be given other themes at any time. All tokens of a line
have the classes of one snapshot all the same, which the channel had while the line was tokenized,
and from line to line the snapshots do not get older.
-/
namespace TokenTheme

/-- The classes of the colors are those of the rules. -/
def Snapshot.Mapped (s : Snapshot) : Prop := s.classMap = .ofRules s.theme.rules

theorem Snapshot.classOf_mem {s : Snapshot} (mapped : s.Mapped) (a : Attributes) :
    s.classOf a = "" ∨ ∃ r ∈ s.theme.rules, s.classOf a = r.token := by
  unfold classOf
  cases s.palette.foreground? a with
  | none => exact .inl rfl
  | some c =>
    rw [Option.bind_some, mapped, ClassMap.get?_ofRules]
    cases first : s.theme.rules.find? (·.Paints c) with
    | none => exact .inl rfl
    | some r => exact .inr ⟨r, List.mem_of_find?_eq_some first, rfl⟩

theorem Scope.resolveClass_mem (known scopes : List String) :
    resolveClass known scopes = "" ∨ resolveClass known scopes ∈ known := by
  unfold resolveClass
  cases first : (candidates scopes).find? (known.contains ·) with
  | none => exact .inl rfl
  | some token => exact .inr (List.contains_iff_mem.mp (List.find?_some first))

theorem Snapshot.resolveClass_mem (s : Snapshot) (scopes : List String) :
    s.resolveClass scopes = "" ∨ ∃ r ∈ s.theme.rules, s.resolveClass scopes = r.token := by
  rcases Scope.resolveClass_mem s.knownClasses scopes with none | member
  · exact .inl none
  · obtain ⟨r, ruled, same⟩ := List.mem_map.mp member
    exact .inr ⟨r, ruled, same.symm⟩

namespace Traffic

theorem mapped_step {w : Traffic} (event : Event)
    (mapped : ∀ k c, w.service.channel? k = some c → c.snapshot.Mapped) :
    ∀ k c, (w.step event).service.channel? k = some c → c.snapshot.Mapped := by
  intro k d found
  rcases snapshot_step event found with ⟨c, there, same⟩ | none | ⟨source, version, made⟩
  · exact same ▸ mapped k c there
  · rw [none]
    rfl
  · rw [made]
    rfl

theorem mapped_run {w : Traffic} (events : List Event)
    (mapped : ∀ k c, w.service.channel? k = some c → c.snapshot.Mapped) :
    ∀ k c, (w.run events).service.channel? k = some c → c.snapshot.Mapped := by
  induction events generalizing w with
  | nil => exact mapped
  | cons event rest ih => exact ih (mapped_step event mapped)

end Traffic

/-- The tokens of a line have the classes of one theme. -/
structure Provider.Uniform (p : Provider) (theme : Snapshot) (line : String) (state : LineState)
    (l : Line String) : Prop where
  scopes : p.options.mode = .scopes → ∃ named, p.grammar.tokenize line state = .ok named ∧
    l = named.map (Scope.resolveClass theme.knownClasses)
  encoded : p.options.mode = .encoded → ∃ packed,
    p.grammar.encode theme p.options.language line state = .ok packed ∧ l = packed.map theme.classOf
  /-- The grammar may leave the attributes to the theme. -/
  encodedScopes : p.options.mode = .encoded →
    p.grammar = .ofScopes p.grammar.scopeName p.grammar.tokenize →
    ∃ named, p.grammar.tokenize line state = .ok named ∧
      l = named.map fun scopes => theme.classOf (theme.encodeScopes scopes p.options.language)
  known : ∀ t ∈ l.tokens, t.value = "" ∨ ∃ r ∈ theme.theme.rules, t.value = r.token

theorem Line.mem_tokens_map {α β : Type} {f : α → β} {l : Line α} {t : Token β}
    (member : t ∈ (l.map f).tokens) : ∃ a, t.value = f a := by
  obtain ⟨u, -, rfl⟩ := List.mem_map.mp member
  exact ⟨u.value, rfl⟩

theorem Provider.uniform_of_tokenize? {p : Provider} {theme : Snapshot} {line : String}
    {state : LineState} {l : Line String} (mapped : theme.Mapped)
    (given : p.tokenize? (some theme) line state = .ok l) : p.Uniform theme line state l := by
  cases mode : p.options.mode with
  | scopes =>
    simp only [tokenize?, mode] at given
    obtain ⟨named, tokenized, rfl⟩ := map_ok given
    refine ⟨fun _ => ⟨named, tokenized, rfl⟩, by simp [mode], by simp [mode], ?_⟩
    intro t member
    obtain ⟨scopes, value⟩ := Line.mem_tokens_map member
    rw [value]
    exact theme.resolveClass_mem scopes
  | encoded =>
    simp only [tokenize?, mode] at given
    obtain ⟨packed, encoded, rfl⟩ := map_ok given
    refine ⟨by simp [mode], fun _ => ⟨packed, encoded, rfl⟩, ?_, ?_⟩
    · intro _ left
      unfold encode at encoded
      rw [left] at encoded
      obtain ⟨named, tokenized, rfl⟩ := map_ok encoded
      refine ⟨named, tokenized, ?_⟩
      simp [Line.map, Token.map]
    · intro t member
      obtain ⟨a, value⟩ := Line.mem_tokens_map member
      rw [value]
      exact Snapshot.classOf_mem mapped a

namespace Editing

def start (source : ThemeSource) : Editing := { traffic := .start source }

theorem kept_start (p : Provider) (k : Nat) (source : ThemeSource) (events : List Event) :
    Kept p k (fun n => ((start source).run p k (events.take n)).current k)
      ((start source).run p k events) := by
  have nothing : Kept p k (fun n => ((start source).run p k (events.take n)).current k)
      (start source) := by
    refine ⟨rfl, ?_, ?_, .nil⟩
    · intro c calling
      cases calling
    · intro r member
      cases member
  refine kept_run nothing ?_
  intro n _
  rw [show (start source).moment + n = n from Nat.zero_add n]

theorem mapped_of_seen {p : Provider} {k begun ended : Nat} {source : ThemeSource}
    {events : List Event} {theme : Snapshot}
    (seen : Seen (fun n => ((start source).run p k (events.take n)).current k) begun ended theme) :
    theme.Mapped := by
  obtain ⟨n, -, -, showing⟩ := seen
  obtain ⟨c, there, rfl⟩ := Option.map_eq_some_iff.mp showing
  obtain ⟨es, same⟩ := traffic_run (p := p) (k := k) (s := start source) (events.take n)
  have unopened : ∀ k c, (Traffic.start source).service.channel? k = some c → c.snapshot.Mapped := by
    intro k c found
    cases found
  exact Traffic.mapped_run es unopened k c (same ▸ there)

theorem Seen.version_le {p : Provider} {k begun ended begun' ended' : Nat} {s : Editing}
    {events : List Event} {earlier later : Snapshot}
    (seen : Seen (fun n => (s.run p k (events.take n)).current k) begun ended earlier)
    (seen' : Seen (fun n => (s.run p k (events.take n)).current k) begun' ended' later)
    (order : ended ≤ begun') : earlier.version ≤ later.version := by
  obtain ⟨m, -, last, showing⟩ := seen
  obtain ⟨n, first, -, showing'⟩ := seen'
  have front : (events.take n).take m = events.take m := by
    rw [List.take_take, Nat.min_eq_left (by omega)]
  have between : s.run p k (events.take n) =
      (s.run p k (events.take m)).run p k ((events.take n).drop m) := by
    rw [← front]
    conv_lhs => rw [← List.take_append_drop m (events.take n)]
    exact List.foldl_append
  obtain ⟨current', found, forward⟩ := current_run (p := p) ((events.take n).drop m) showing
  rw [← between] at found
  obtain rfl : later = current' := Option.some.inj (showing'.symm.trans found)
  exact forward

/-- However the theme is replaced during calls, the tokens of a line have the classes of one
snapshot that the channel had in the meantime; the next call takes one that is not older. -/
theorem uniform_results (p : Provider) (k : Nat) (source : ThemeSource) (events : List Event) :
    let shown n := ((start source).run p k (events.take n)).current k
    let results := ((start source).run p k events).results
    (∀ r ∈ results, Seen shown r.begun r.ended r.theme ∧
      r.result = p.tokenize? (some r.theme) r.line r.state ∧
      ∀ l, r.result = .ok l → p.Uniform r.theme r.line r.state l) ∧
    results.Pairwise fun later earlier =>
      earlier.ended ≤ later.begun ∧ earlier.theme.version ≤ later.theme.version := by
  intro shown results
  have kept := kept_start p k source events
  constructor
  · intro r member
    obtain ⟨-, seen, given⟩ := kept.results r member
    refine ⟨seen, given, ?_⟩
    intro l ok
    exact Provider.uniform_of_tokenize? (mapped_of_seen seen) (given ▸ ok)
  · refine kept.order.imp_of_mem ?_
    intro later earlier member member' order
    have seen := (kept.results earlier member').2.1
    have seen' := (kept.results later member).2.1
    exact ⟨order, seen.version_le seen' order⟩

/-- The theme is replaced after the first call has taken its snapshot and before it encodes. -/
def replaced : List Event :=
  [.theme (.openChannel (some (Sample.stringTheme "#CE9178"))),
    .tokenize "\"a\"1" .initial, .work,
    .theme (.publish 0 0 Sample.darkTheme), .theme (.work 0), .theme (.work 0),
    .work, .work, .work, .work, .work,
    .tokenize "\"a\"1" .initial, .work, .work, .work, .work, .work, .work]

def packing : Provider :=
  ⟨(Provider.compiled Sample.dataGrammar).toGrammar, { mode := .encoded }⟩

theorem uniform_results_replaced :
    let shown n := ((start Sample.darkTheme).run packing 0 (replaced.take n)).current 0
    let results := ((start Sample.darkTheme).run packing 0 replaced).results
    results.map (fun r => (r.theme.version, r.result)) =
      [(1, .ok ⟨[⟨0, "string"⟩, ⟨3, "constant.numeric"⟩], .initial⟩),
        (0, .ok ⟨[⟨0, "string"⟩, ⟨3, ""⟩], .initial⟩)] ∧
    (∃ r ∈ results, r.theme.version = 0 ∧ Seen shown r.begun r.ended r.theme ∧
      r.result = packing.tokenize? (some r.theme) r.line r.state ∧
      r.result = .ok ⟨[⟨0, "string"⟩, ⟨3, ""⟩], .initial⟩ ∧
      packing.Uniform r.theme r.line r.state ⟨[⟨0, "string"⟩, ⟨3, ""⟩], .initial⟩) ∧
    results.Pairwise fun later earlier =>
      earlier.ended ≤ later.begun ∧ earlier.theme.version ≤ later.theme.version := by
  intro shown results
  have ran : results.map (fun r => (r.theme.version, r.result)) =
      [(1, .ok ⟨[⟨0, "string"⟩, ⟨3, "constant.numeric"⟩], .initial⟩),
        (0, .ok ⟨[⟨0, "string"⟩, ⟨3, ""⟩], .initial⟩)] := by
    decide +kernel
  obtain ⟨uniform, order⟩ := uniform_results packing 0 Sample.darkTheme replaced
  refine ⟨ran, ?_, order⟩
  obtain ⟨r, member, same⟩ := List.mem_map.mp (ran ▸ List.mem_cons_of_mem _ List.mem_cons_self)
  obtain ⟨version, ok⟩ := Prod.mk.inj same
  obtain ⟨seen, given, classes⟩ := uniform r member
  exact ⟨r, member, version, seen, given, ok, classes _ ok⟩

end Editing

end TokenTheme
