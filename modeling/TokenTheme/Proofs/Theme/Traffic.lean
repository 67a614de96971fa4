import Mathlib
import TokenTheme.Theme.Service
/-!
# Calls at the same time

Several threads use a theme service at a time. A call is a list of tasks; the tasks of different
threads take turns in any order, and a call may begin in the middle of another one of its thread,
from a listener or while the theme is being read. Versions only move forward (`channel_step`), and
calls that are made one after the other are one such run (`run_work`).
-/
namespace TokenTheme

/-- A service and the calls that are under way. -/
structure Traffic where
  service : Service
  /-- What each thread has left to do. -/
  threads : List (List Task) := []
  /-- The versions that were taken, each with its channel, the last first. -/
  taken : List (Nat × Nat) := []

def Task.version? : Task → Option (Nat × Nat)
  | read channel version | install channel version _ => some (channel, version)
  | _ => none

/-- The version that a task takes, with its channel. -/
def Service.taking (s : Service) : Task → List (Nat × Nat)
  | .takeVersion channel | .publish channel _ =>
    match s.channel? channel with
    | some c => [(channel, c.nextVersion)]
    | none => []
  | _ => []

namespace Traffic

inductive Event where
  | openChannel (start : Option ThemeSource)
  | setTheme (thread : Nat) (theme : ThemeSource)
  /-- A channel registers its listener, and is to publish the current theme. -/
  | subscribe (thread channel : Nat)
  | unsubscribe (listener : Nat)
  /-- A channel is to publish a theme that is not the one of the service. -/
  | publish (thread channel : Nat) (theme : ThemeSource)
  /-- A thread does the next one of its tasks. -/
  | work (thread : Nat)

/-- A call begins, in front of what its thread is doing. -/
def enter (threads : List (List Task)) (thread : Nat) (t : Task) : List (List Task) :=
  match threads[thread]? with
  | some rest => threads.set thread (t :: rest)
  | none => threads ++ [[t]]

def step (w : Traffic) : Event → Traffic
  | .openChannel start => { w with service := (w.service.newChannel start).2 }
  | .setTheme thread theme => { w with threads := enter w.threads thread (.store theme) }
  | .subscribe thread channel =>
    if (w.service.channel? channel).isSome then
      { w with
        service := (w.service.listen (.follow channel)).2
        threads := enter w.threads thread (.takeVersion channel) }
    else w
  | .unsubscribe listener => { w with service := w.service.removeListener listener }
  | .publish thread channel theme =>
    if (w.service.channel? channel).isSome then
      { w with threads := enter w.threads thread (.publish channel theme) }
    else w
  | .work thread =>
    match w.threads[thread]? with
    | some (t :: rest) =>
      { service := (w.service.step t).1
        threads := w.threads.set thread ((w.service.step t).2 ++ rest)
        taken := w.service.taking t ++ w.taken }
    | _ => w

def run (w : Traffic) (events : List Event) : Traffic := events.foldl step w

def start (theme : ThemeSource) : Traffic := { service := .ofSource theme }

def pending (w : Traffic) : List Task := w.threads.flatten

theorem run_append (w : Traffic) (first second : List Event) :
    w.run (first ++ second) = (w.run first).run second := List.foldl_append

/-! ### Tasks -/

theorem mem_enter {threads : List (List Task)} {thread : Nat} {t x : Task} :
    x ∈ (enter threads thread t).flatten ↔ x = t ∨ x ∈ threads.flatten := by
  unfold enter
  split
  · rename_i rest found
    obtain ⟨bound, value⟩ := List.getElem?_eq_some_iff.mp found
    rw [List.set_eq_take_append_cons_drop, if_pos bound]
    conv_rhs => rw [← List.take_append_drop thread threads, List.drop_eq_getElem_cons bound, value]
    simp only [List.flatten_append, List.flatten_cons, List.mem_append, List.mem_cons]
    tauto
  · simp only [List.flatten_append, List.flatten_cons, List.flatten_nil, List.mem_append,
      List.mem_cons, List.not_mem_nil, or_false]
    tauto

/-- A task is done, and others come in its place. -/
structure Handover (t : Task) (next before after : List Task) : Prop where
  first : t ∈ before
  kept : ∀ x ∈ before, x = t ∨ x ∈ after
  added : ∀ x ∈ next, x ∈ after
  only : ∀ x ∈ after, x ∈ next ∨ x ∈ before

theorem handover_set {threads : List (List Task)} {thread : Nat} {t : Task} {rest : List Task}
    (next : List Task) (found : threads[thread]? = some (t :: rest)) :
    Handover t next threads.flatten (threads.set thread (next ++ rest)).flatten := by
  obtain ⟨bound, value⟩ := List.getElem?_eq_some_iff.mp found
  have before : threads.flatten =
      (threads.take thread).flatten ++ (t :: rest ++ (threads.drop (thread + 1)).flatten) := by
    conv_lhs => rw [← List.take_append_drop thread threads, List.drop_eq_getElem_cons bound, value]
    rw [List.flatten_append, List.flatten_cons]
  rw [before, List.set_eq_take_append_cons_drop, if_pos bound, List.flatten_append,
    List.flatten_cons]
  constructor
  · simp
  · intro x member
    simp only [List.mem_append, List.mem_cons] at member ⊢
    tauto
  · intro x member
    simp only [List.mem_append]
    tauto
  · intro x member
    simp only [List.mem_append, List.mem_cons] at member ⊢
    tauto

theorem work_cases (w : Traffic) (thread : Nat) :
    w.step (.work thread) = w ∨ ∃ t,
      (w.step (.work thread)).service = (w.service.step t).1 ∧
      (w.step (.work thread)).taken = w.service.taking t ++ w.taken ∧
      Handover t (w.service.step t).2 w.pending (w.step (.work thread)).pending := by
  rcases found : w.threads[thread]? with - | - | ⟨t, rest⟩
  · exact .inl (by simp only [step, found])
  · exact .inl (by simp only [step, found])
  · have handover := handover_set (w.service.step t).2 found
    refine .inr ⟨t, ?_, ?_, ?_⟩
    · simp only [step, found]
    · simp only [step, found]
    · simp only [step, found, pending]
      exact handover

/-! ### Channels -/

theorem channel?_setChannel (s : Service) (j k : Nat) (c : Channel) :
    (s.setChannel j c).channel? k =
      if k = j then (s.channel? k).map fun _ => c else s.channel? k := by
  unfold Service.channel? Service.setChannel
  induction s.channels with
  | nil => simp
  | cons e rest ih =>
    obtain ⟨i, d⟩ := e
    simp only [List.map_cons]
    by_cases own : i = j
    · subst own
      by_cases same : k = i
      · subst same
        simp
      · simpa [List.lookup_cons, same, beq_false_of_ne same] using ih
    · by_cases same : k = i
      · subst same
        simp [own]
      · simpa [List.lookup_cons, own, same, beq_false_of_ne same] using ih

def opened (start : Option ThemeSource) : Channel := start.elim default .ofSource

theorem lt_opened (start : Option ThemeSource) :
    (opened start).version < (opened start).nextVersion := by
  cases start <;> exact Nat.one_pos

theorem channel?_newChannel (s : Service) (start : Option ThemeSource) (k : Nat) :
    (s.newChannel start).2.channel? k =
      (s.channel? k).or (if k = s.nextChannel then some (opened start) else none) := by
  have appended : ∀ c : Channel, (s.channels ++ [(s.nextChannel, c)]).lookup k =
      (s.channels.lookup k).or (if k = s.nextChannel then some c else none) := by
    intro c
    rw [List.lookup_append]
    by_cases same : k = s.nextChannel
    · simp [same]
    · simp [List.lookup_cons, same, beq_false_of_ne same]
  cases start with
  | none => exact appended default
  | some theme => exact appended (.ofSource theme)

def move (t : Task) (k : Nat) (c : Channel) : Channel :=
  match t with
  | .takeVersion j | .publish j _ => if k = j then c.takeVersion else c
  | .install j version theme => if k = j then c.install (.ofSource theme version) else c
  | _ => c

theorem channel?_replaced (s : Service) (j k : Nat) (f : Channel → Channel) :
    (match s.channel? j with
      | none => s
      | some c => s.setChannel j (f c)).channel? k =
      (s.channel? k).map fun c => if k = j then f c else c := by
  by_cases own : k = j
  · subst own
    cases there : s.channel? k <;> simp [there, channel?_setChannel]
  · cases s.channel? j <;> simp [own, channel?_setChannel]

theorem channel?_step (s : Service) (t : Task) (k : Nat) :
    (s.step t).1.channel? k = (s.channel? k).map (move t k) := by
  have kept : s.channel? k = (s.channel? k).map fun c => c := Option.map_id'.symm
  cases t with
  | store theme => exact kept
  | collect theme => exact kept
  | call listener theme => cases listener <;> exact kept
  | read j version => simp only [Service.step]; split <;> exact kept
  | takeVersion j =>
    refine Eq.trans ?_ (channel?_replaced s j k Channel.takeVersion)
    simp only [Service.step]
    cases s.channel? j <;> rfl
  | publish j theme =>
    refine Eq.trans ?_ (channel?_replaced s j k Channel.takeVersion)
    simp only [Service.step]
    cases s.channel? j <;> rfl
  | install j version theme =>
    refine Eq.trans ?_ (channel?_replaced s j k fun c => c.install (.ofSource theme version))
    simp only [Service.step]
    cases s.channel? j <;> rfl

theorem mem_taking {s : Service} {t : Task} {k v : Nat} (member : (k, v) ∈ s.taking t) :
    ∃ c, s.channel? k = some c ∧ v = c.nextVersion ∧ move t k c = c.takeVersion := by
  have named : ∀ j, (k, v) ∈ (match s.channel? j with
      | some c => [(j, c.nextVersion)]
      | none => []) → k = j ∧ ∃ c, s.channel? j = some c ∧ v = c.nextVersion := by
    intro j member
    split at member
    · rename_i c found
      cases List.mem_singleton.mp member
      exact ⟨rfl, c, found, rfl⟩
    · cases member
  cases t with
  | takeVersion j =>
    obtain ⟨rfl, c, there, same⟩ := named j member
    exact ⟨c, there, same, if_pos rfl⟩
  | publish j theme =>
    obtain ⟨rfl, c, there, same⟩ := named j member
    exact ⟨c, there, same, if_pos rfl⟩
  | _ => cases member

theorem version_install (c : Channel) (s : Snapshot) :
    (c.install s).version = max c.version s.version := by
  unfold Channel.install
  split
  · rename_i older
    exact (Nat.max_eq_left (Nat.le_of_lt older)).symm
  · rename_i newer
    exact (Nat.max_eq_right (Nat.not_lt.mp newer)).symm

theorem nextVersion_install (c : Channel) (s : Snapshot) :
    (c.install s).nextVersion = c.nextVersion := by
  unfold Channel.install
  split <;> rfl

theorem le_move (t : Task) (k : Nat) (c : Channel) :
    c.version ≤ (move t k c).version ∧ c.nextVersion ≤ (move t k c).nextVersion := by
  have same : c.version ≤ c.version ∧ c.nextVersion ≤ c.nextVersion :=
    ⟨Nat.le_refl _, Nat.le_refl _⟩
  have taken : c.version ≤ c.takeVersion.version ∧ c.nextVersion ≤ c.takeVersion.nextVersion :=
    ⟨Nat.le_refl _, Nat.le_succ _⟩
  cases t with
  | takeVersion j => simp only [move]; split <;> assumption
  | publish j theme => simp only [move]; split <;> assumption
  | install j version theme =>
    simp only [move]
    split
    · rw [version_install, nextVersion_install]
      exact ⟨Nat.le_max_left _ _, Nat.le_refl _⟩
    · exact same
  | _ => exact same

/-- Whatever happens, a channel stays as it is, is opened, or is moved by a task. -/
theorem channel?_event (w : Traffic) (event : Event) (k : Nat) :
    (w.step event).service.channel? k = w.service.channel? k ∨
      (w.service.channel? k = none ∧
        ∃ start, (w.step event).service.channel? k = some (opened start)) ∨
      ∃ t, (w.step event).service.channel? k = (w.service.channel? k).map (move t k) := by
  cases event with
  | openChannel start =>
    rw [step, channel?_newChannel]
    cases there : w.service.channel? k with
    | some c => exact .inl rfl
    | none =>
      rw [Option.none_or]
      split
      · exact .inr (.inl ⟨rfl, start, rfl⟩)
      · exact .inl rfl
  | setTheme thread theme => exact .inl rfl
  | subscribe thread channel => simp only [step]; split <;> exact .inl rfl
  | unsubscribe listener => exact .inl rfl
  | publish thread channel theme => simp only [step]; split <;> exact .inl rfl
  | work thread =>
    rcases w.work_cases thread with same | ⟨t, service, -, -⟩
    · exact .inl (by rw [same])
    · exact .inr (.inr ⟨t, by rw [service, channel?_step]⟩)

/-- Whatever happens a channel stays, and its version never goes back. -/
theorem channel_step {w : Traffic} {k : Nat} {c : Channel} (event : Event)
    (there : w.service.channel? k = some c) :
    ∃ d, (w.step event).service.channel? k = some d ∧ c.version ≤ d.version ∧
      c.nextVersion ≤ d.nextVersion := by
  rcases w.channel?_event event k with same | ⟨absent, -⟩ | ⟨t, moved⟩
  · exact ⟨c, same.trans there, Nat.le_refl _, Nat.le_refl _⟩
  · cases absent.symm.trans there
  · rw [there] at moved
    exact ⟨move t k c, moved, le_move t k c⟩

theorem channel_run {w : Traffic} {k : Nat} {c : Channel} (events : List Event)
    (there : w.service.channel? k = some c) :
    ∃ d, (w.run events).service.channel? k = some d ∧ c.version ≤ d.version := by
  induction events generalizing w c with
  | nil => exact ⟨c, there, Nat.le_refl _⟩
  | cons event rest ih =>
    obtain ⟨d, found, later, -⟩ := channel_step event there
    obtain ⟨last, found', later'⟩ := ih found
    exact ⟨last, found', Nat.le_trans later later'⟩

theorem snapshot_move (t : Task) (k : Nat) (c : Channel) :
    (move t k c).snapshot = c.snapshot ∨
      ∃ source version, (move t k c).snapshot = .ofSource source version := by
  cases t with
  | takeVersion j => simp only [move]; split <;> exact .inl rfl
  | publish j theme => simp only [move]; split <;> exact .inl rfl
  | install j version theme =>
    simp only [move]
    split
    · unfold Channel.install
      split
      · exact .inl rfl
      · exact .inr ⟨theme, version, rfl⟩
    · exact .inl rfl
  | _ => exact .inl rfl

/-- A snapshot stays in its channel, or another one is made for a theme; a channel that is opened
may have the one before any theme. -/
theorem snapshot_step {w : Traffic} {k : Nat} {d : Channel} (event : Event)
    (found : (w.step event).service.channel? k = some d) :
    (∃ c, w.service.channel? k = some c ∧ d.snapshot = c.snapshot) ∨ d.snapshot = default ∨
      ∃ source version, d.snapshot = .ofSource source version := by
  rcases w.channel?_event event k with same | ⟨-, start, new⟩ | ⟨t, moved⟩
  · exact .inl ⟨d, same.symm.trans found, rfl⟩
  · cases new.symm.trans found
    cases start with
    | none => exact .inr (.inl rfl)
    | some theme => exact .inr (.inr ⟨theme, 0, rfl⟩)
  · obtain ⟨c, there, rfl⟩ := Option.map_eq_some_iff.mp (moved.symm.trans found)
    rcases snapshot_move t k c with stays | made
    · exact .inl ⟨c, there, stays⟩
    · exact .inr (.inr made)

/-! ### Versions -/

structure Sound (w : Traffic) : Prop where
  followed : ∀ id k, (id, .follow k) ∈ w.service.listeners → ∃ c, w.service.channel? k = some c
  current : ∀ k c, w.service.channel? k = some c → c.version < c.nextVersion
  issued : ∀ k v, (k, v) ∈ w.taken → ∃ c, w.service.channel? k = some c ∧ v < c.nextVersion
  pending : ∀ t ∈ w.pending, ∀ e, t.version? = some e → e ∈ w.taken

theorem sound_start (theme : ThemeSource) : (start theme).Sound := by
  refine ⟨?_, ?_, ?_, ?_⟩ <;> simp [start, Service.ofSource, Service.channel?, Traffic.pending]

variable {w : Traffic}

theorem issued_step (event : Event) (sound : w.Sound) {k v : Nat} (taken : (k, v) ∈ w.taken) :
    ∃ c, (w.step event).service.channel? k = some c ∧ v < c.nextVersion := by
  obtain ⟨c, there, earlier⟩ := sound.issued k v taken
  obtain ⟨d, found, -, later⟩ := channel_step event there
  exact ⟨d, found, Nat.lt_of_lt_of_le earlier later⟩

theorem sound_enter {s : Service} {thread : Nat} {t : Task} (sound : w.Sound)
    (fresh : t.version? = none) (channels : s.channels = w.service.channels)
    (followed : ∀ id k, (id, .follow k) ∈ s.listeners → ∃ c, s.channel? k = some c) :
    Sound { w with service := s, threads := enter w.threads thread t } := by
  have same : ∀ k, s.channel? k = w.service.channel? k := by
    intro k
    unfold Service.channel?
    rw [channels]
  refine ⟨followed, ?_, ?_, ?_⟩
  · intro k c there
    exact sound.current k c (same k ▸ there)
  · intro k v taken
    rw [same k]
    exact sound.issued k v taken
  · intro x member e version
    rcases mem_enter.mp member with rfl | before
    · cases fresh.symm.trans version
    · exact sound.pending x before e version

/-- A task that comes in the place of another one has the version that this one had or took. -/
theorem version_of_step {s : Service} {t x : Task} {e : Nat × Nat} (member : x ∈ (s.step t).2)
    (version : x.version? = some e) : t.version? = some e ∨ e ∈ s.taking t := by
  cases t with
  | store theme =>
    cases List.mem_singleton.mp member
    cases version
  | collect theme =>
    obtain ⟨l, -, rfl⟩ := List.mem_map.mp member
    cases version
  | call listener theme =>
    cases listener with
    | note label => cases member
    | follow j =>
      simp only [Service.step] at member
      split at member
      · cases List.mem_singleton.mp member
        cases version
      · cases member
  | takeVersion j =>
    right
    simp only [Service.step, Service.taking] at member ⊢
    split at member
    · cases member
    · rename_i c found
      cases List.mem_singleton.mp member
      cases version
      simp [found]
  | publish j theme =>
    right
    simp only [Service.step, Service.taking] at member ⊢
    split at member
    · cases member
    · rename_i c found
      cases List.mem_singleton.mp member
      cases version
      simp [found]
  | read j v =>
    left
    simp only [Service.step] at member
    split at member
    · cases List.mem_singleton.mp member
      exact version
    · rcases List.mem_cons.mp member with rfl | member
      · cases version
      · cases List.mem_singleton.mp member
        exact version
  | install j v theme =>
    simp only [Service.step] at member
    split at member <;> cases member

theorem lt_move {t : Task} {k : Nat} {c : Channel} (current : c.version < c.nextVersion)
    (issued : ∀ v, t.version? = some (k, v) → v < c.nextVersion) :
    (move t k c).version < (move t k c).nextVersion := by
  have taken : c.takeVersion.version < c.takeVersion.nextVersion := Nat.lt_succ_of_lt current
  cases t with
  | takeVersion j => simp only [move]; split <;> assumption
  | publish j theme => simp only [move]; split <;> assumption
  | install j version theme =>
    simp only [move]
    split
    · rename_i own
      rw [version_install, nextVersion_install]
      have newer : version < c.nextVersion := issued version (own ▸ rfl)
      exact Nat.max_lt.mpr ⟨current, newer⟩
    · exact current
  | _ => exact current

theorem sound_openChannel (start : Option ThemeSource) (sound : w.Sound) :
    (w.step (.openChannel start)).Sound := by
  refine ⟨?_, ?_, ?_, sound.pending⟩
  · intro id k member
    have before : (id, .follow k) ∈ w.service.listeners := by
      cases start <;> exact member
    obtain ⟨c, there⟩ := sound.followed id k before
    obtain ⟨d, found, -⟩ := channel_step (.openChannel start) there
    exact ⟨d, found⟩
  · intro k c found
    rw [step, channel?_newChannel] at found
    cases there : w.service.channel? k with
    | some c' =>
      rw [there] at found
      cases found
      exact sound.current k c there
    | none =>
      rw [there, Option.none_or] at found
      split at found
      · cases found
        exact lt_opened start
      · cases found
  · intro k v taken
    exact issued_step (.openChannel start) sound taken

theorem sound_work (thread : Nat) (sound : w.Sound) : (w.step (.work thread)).Sound := by
  rcases w.work_cases thread with same | ⟨t, service, taken, handover⟩
  · rw [same]
    exact sound
  refine ⟨?_, ?_, ?_, ?_⟩
  · intro id k member
    rw [service, Service.listeners_step] at member
    obtain ⟨c, there⟩ := sound.followed id k member
    obtain ⟨d, found, -⟩ := channel_step (.work thread) there
    exact ⟨d, found⟩
  · intro k d found
    rw [service, channel?_step] at found
    obtain ⟨c, there, rfl⟩ := Option.map_eq_some_iff.mp found
    refine lt_move (sound.current k c there) ?_
    intro v version
    obtain ⟨c', there', earlier⟩ := sound.issued k v (sound.pending t handover.first _ version)
    cases there.symm.trans there'
    exact earlier
  · intro k v member
    rw [taken] at member
    rcases List.mem_append.mp member with new | before
    · obtain ⟨c, there, rfl, moved⟩ := mem_taking new
      rw [service, channel?_step, there]
      exact ⟨_, rfl, moved ▸ Nat.lt_succ_self _⟩
    · exact issued_step (.work thread) sound before
  · intro x member e version
    rw [taken]
    rcases handover.only x member with new | before
    · rcases version_of_step new version with had | took
      · exact List.mem_append_right _ (sound.pending t handover.first e had)
      · exact List.mem_append_left _ took
    · exact List.mem_append_right _ (sound.pending x before e version)

theorem step_sound (event : Event) (sound : w.Sound) : (w.step event).Sound := by
  cases event with
  | openChannel start => exact sound_openChannel start sound
  | setTheme thread theme => exact sound_enter sound rfl rfl sound.followed
  | subscribe thread channel =>
    simp only [step]
    split
    · rename_i there
      refine sound_enter sound rfl rfl ?_
      intro id k member
      rcases List.mem_append.mp member with before | last
      · exact sound.followed id k before
      · cases List.mem_singleton.mp last
        exact Option.isSome_iff_exists.mp there
    · exact sound
  | unsubscribe listener =>
    refine ⟨?_, sound.current, sound.issued, sound.pending⟩
    intro id k member
    exact sound.followed id k (List.mem_filter.mp member).1
  | publish thread channel theme =>
    simp only [step]
    split
    · exact sound_enter sound rfl rfl sound.followed
    · exact sound
  | work thread => exact sound_work thread sound

theorem run_sound (events : List Event) (sound : w.Sound) : (w.run events).Sound := by
  induction events generalizing w with
  | nil => exact sound
  | cons event rest ih => exact ih (step_sound event sound)

/-! ### One call after the other -/

/-- Tasks that are done one after the other are a run of one thread. -/
theorem run_work (s : Service) (tasks : List Task) (taken : List (Nat × Nat)) :
    ∃ count taken', (Traffic.mk s [tasks] taken).run (List.replicate count (.work 0)) =
      ⟨s.run tasks, [[]], taken'⟩ := by
  induction s, tasks using Service.run.induct generalizing taken with
  | case1 s =>
    refine ⟨0, taken, ?_⟩
    rw [Service.run]
    rfl
  | case2 s t rest ih =>
    obtain ⟨count, taken', ran⟩ := ih (s.taking t ++ taken)
    refine ⟨count + 1, taken', ?_⟩
    rw [Service.run]
    exact ran

end Traffic

end TokenTheme
