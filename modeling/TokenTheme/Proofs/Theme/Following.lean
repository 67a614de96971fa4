import Mathlib
import TokenTheme.Proofs.Theme.Traffic
import TokenTheme.Sample
/-!
# Channels that follow the service

A channel that is subscribed, and to which nothing but the theme of the service is published, ends
on that theme however the calls take turns. For either there is a task that leads to the theme being
read once more, or the newest version reads or has read the theme of now: it listens before it
first publishes, it takes its version before it reads, and of two snapshots it keeps the newer one.
-/
namespace TokenTheme

/-- The task leads to a channel taking a version, after which it reads the theme. -/
def Task.Announces (k : Nat) : Task → Prop
  | store _ | collect _ => True
  | call (.follow channel) _ => channel = k
  | takeVersion channel => channel = k
  | _ => False

namespace Traffic

variable {w w' : Traffic} {k v : Nat} {c : Channel} {t : Task}

def Listens (s : Service) (k : Nat) : Prop := ∃ id, (id, .follow k) ∈ s.listeners

def Upcoming (w : Traffic) (k : Nat) : Prop := ∃ t ∈ w.pending, t.Announces k

/-- The newest version of a channel. If it has read a theme, then the current one. -/
structure Newest (w : Traffic) (k : Nat) (c : Channel) (v : Nat) : Prop where
  last : c.nextVersion = v + 1
  taken : (k, v) ∈ w.taken
  read : ∀ theme, .install k v theme ∈ w.pending → theme = w.service.theme
  installed : c.version = v → c.snapshot = .ofSource w.service.theme v
  underway : c.version = v ∨ .read k v ∈ w.pending ∨ ∃ theme, .install k v theme ∈ w.pending

/-- A channel follows the service, as far as it listens to it. -/
structure Following (w : Traffic) (k : Nat) : Prop where
  indirect : ∀ theme, .publish k theme ∉ w.pending
  settled : ∀ c, Listens w.service k → w.service.channel? k = some c →
    w.Upcoming k ∨ ∃ v, w.Newest k c v

theorem following_start (theme : ThemeSource) (k : Nat) : (start theme).Following k := by
  refine ⟨by simp [start, pending], ?_⟩
  rintro c ⟨id, member⟩
  cases member

/-! ### A thread does a task -/

theorem theme_step {s : Service} (stays : ∀ theme, t ≠ .store theme) :
    (s.step t).1.theme = s.theme := by
  cases t with
  | store theme => exact absurd rfl (stays theme)
  | collect theme => rfl
  | call listener theme => cases listener <;> rfl
  | takeVersion | publish | read | install => simp only [Service.step]; split <;> rfl

theorem move_eq (quiet : ¬ t.Announces k) (indirect : ∀ theme, t ≠ .publish k theme)
    (other : ∀ v, t.version? ≠ some (k, v)) : move t k c = c := by
  cases t with
  | takeVersion j =>
    refine if_neg ?_
    rintro rfl
    exact quiet rfl
  | publish j theme =>
    refine if_neg ?_
    rintro rfl
    exact indirect theme rfl
  | install j version theme =>
    refine if_neg ?_
    rintro rfl
    exact other version rfl
  | _ => rfl

theorem publish_not_mem_step {s : Service} {theme : ThemeSource} :
    .publish k theme ∉ (s.step t).2 := by
  intro member
  cases t with
  | store source => cases List.mem_singleton.mp member
  | collect source =>
    obtain ⟨l, -, same⟩ := List.mem_map.mp member
    cases same
  | call listener source =>
    cases listener with
    | note label => cases member
    | follow j =>
      simp only [Service.step] at member
      split at member
      · cases List.mem_singleton.mp member
      · cases member
  | takeVersion | publish | read | install =>
    simp only [Service.step] at member
    split at member <;> simp at member

section Work

variable {next : List Task} (handover : Handover t next w.pending w'.pending)
include handover

theorem upcoming_of_next {x : Task} (member : x ∈ next) (announces : x.Announces k) :
    w'.Upcoming k :=
  ⟨x, handover.added x member, announces⟩

theorem Upcoming.kept (quiet : ¬ t.Announces k) (upcoming : w.Upcoming k) : w'.Upcoming k := by
  obtain ⟨x, member, announces⟩ := upcoming
  rcases handover.kept x member with rfl | kept
  · exact absurd announces quiet
  · exact ⟨x, kept, announces⟩

/-- A version that is taken has read nothing yet, so it will read the theme of the moment. -/
theorem newest_takeVersion (sound : w.Sound) (there : w.service.channel? k = some c)
    (same : next = [.read k c.nextVersion]) (taken : (k, c.nextVersion) ∈ w'.taken) :
    w'.Newest k c.takeVersion c.nextVersion := by
  have current := sound.current k c there
  refine ⟨rfl, taken, ?_, ?_, .inr (.inl (handover.added _ (by simp [same])))⟩
  · intro theme member
    rcases handover.only _ member with new | before
    · simp [same] at new
    · obtain ⟨c', there', earlier⟩ := sound.issued _ _ (sound.pending _ before _ rfl)
      cases there.symm.trans there'
      exact absurd earlier (Nat.lt_irrefl _)
  · intro last
    exact absurd last (Nat.ne_of_lt current)

theorem Newest.of_other (newest : w.Newest k c v) (theme : w'.service.theme = w.service.theme)
    (taken : w.taken ⊆ w'.taken) (other : ∀ v, t.version? ≠ some (k, v))
    (unread : ∀ theme, .install k v theme ∉ next) : w'.Newest k c v := by
  obtain ⟨last, issued, read, installed, underway⟩ := newest
  rw [← theme] at read installed
  refine ⟨last, taken issued, ?_, installed, ?_⟩
  · intro source member
    rcases handover.only _ member with new | before
    · exact absurd new (unread source)
    · exact read source before
  · rcases underway with done | reading | ⟨source, installing⟩
    · exact .inl done
    · rcases handover.kept _ reading with rfl | kept
      · exact absurd rfl (other v)
      · exact .inr (.inl kept)
    · rcases handover.kept _ installing with rfl | kept
      · exact absurd rfl (other v)
      · exact .inr (.inr ⟨source, kept⟩)

theorem Newest.of_read {version : Nat} (newest : w.Newest k c v) (own : t = .read k version)
    (same : next = [.install k version w.service.theme])
    (theme : w'.service.theme = w.service.theme) (taken : w.taken ⊆ w'.taken) :
    w'.Newest k c v := by
  obtain ⟨last, issued, read, installed, underway⟩ := newest
  subst own
  refine ⟨last, taken issued, ?_, theme ▸ installed, ?_⟩
  · intro source member
    rw [theme]
    rcases handover.only _ member with new | before
    · rw [same, List.mem_singleton] at new
      cases new
      rfl
    · exact read source before
  · rcases underway with done | reading | ⟨source, installing⟩
    · exact .inl done
    · rcases handover.kept _ reading with now | kept
      · cases now
        exact .inr (.inr ⟨w.service.theme, handover.added _ (by simp [same])⟩)
      · exact .inr (.inl kept)
    · rcases handover.kept _ installing with now | kept
      · cases now
      · exact .inr (.inr ⟨source, kept⟩)

/-- An older snapshot does not replace the newest one, and that one is of the current theme. -/
theorem Newest.of_install {version : Nat} {source : ThemeSource} (newest : w.Newest k c v)
    (own : t = .install k version source) (bound : version < c.nextVersion)
    (current : c.version < c.nextVersion) (none : next = [])
    (theme : w'.service.theme = w.service.theme) (taken : w.taken ⊆ w'.taken) :
    w'.Newest k (c.install (.ofSource source version)) v := by
  obtain ⟨last, issued, read, installed, underway⟩ := newest
  subst own
  have merged := version_install c (.ofSource source version)
  have made : (Snapshot.ofSource source version).version = version := rfl
  rw [made] at merged
  refine ⟨(nextVersion_install _ _).trans last, taken issued, ?_, ?_, ?_⟩
  · intro source' member
    rw [theme]
    rcases handover.only _ member with new | before
    · simp [none] at new
    · exact read source' before
  · intro newest
    rw [theme]
    unfold Channel.install
    rw [made]
    by_cases older : version < c.version
    · rw [if_pos older]
      exact installed (by omega)
    · rw [if_neg older]
      obtain rfl : version = v := by omega
      rw [read source handover.first]
  · rcases underway with done | reading | ⟨source', installing⟩
    · left
      omega
    · rcases handover.kept _ reading with now | kept
      · cases now
      · exact .inr (.inl kept)
    · rcases handover.kept _ installing with now | kept
      · cases now
        left
        omega
      · exact .inr (.inr ⟨source', kept⟩)

end Work

/-- After a task that leads to the theme being read, another such task is there, or a version that
reads next. -/
theorem settled_of_announces (sound : w.Sound) (announces : t.Announces k)
    (listens : Listens w.service k) (there : w.service.channel? k = some c)
    (taken : w'.taken = w.service.taking t ++ w.taken)
    (handover : Handover t (w.service.step t).2 w.pending w'.pending) :
    w'.Upcoming k ∨ ∃ v, w'.Newest k (move t k c) v := by
  cases t with
  | store theme => exact .inl (upcoming_of_next handover List.mem_cons_self trivial)
  | collect theme =>
    obtain ⟨id, member⟩ := listens
    exact .inl (upcoming_of_next handover (List.mem_map_of_mem member) rfl)
  | call listener theme =>
    cases listener with
    | note label => cases announces
    | follow j =>
      obtain rfl : j = k := announces
      refine .inl (upcoming_of_next handover (x := .takeVersion j) ?_ rfl)
      simp [Service.step, there]
  | takeVersion j =>
    obtain rfl : j = k := announces
    refine .inr ⟨c.nextVersion, ?_⟩
    rw [move, if_pos rfl]
    refine newest_takeVersion handover sound there ?_ ?_
    · simp [Service.step, there]
    · simp [taken, Service.taking, there]
  | _ => cases announces

/-- Of the other tasks only a reading and an installation matter to the channel. -/
theorem settled_of_newest (sound : w.Sound) (newest : w.Newest k c v) (quiet : ¬ t.Announces k)
    (indirect : ∀ theme, t ≠ .publish k theme) (there : w.service.channel? k = some c)
    (theme : w'.service.theme = w.service.theme) (taken : w.taken ⊆ w'.taken)
    (handover : Handover t (w.service.step t).2 w.pending w'.pending) :
    w'.Upcoming k ∨ w'.Newest k (move t k c) v := by
  by_cases other : ∀ version, t.version? ≠ some (k, version)
  · right
    rw [move_eq quiet indirect other]
    refine newest.of_other handover theme taken other ?_
    intro source new
    rcases version_of_step new rfl with had | took
    · exact other v had
    · obtain ⟨c', there', -, moved⟩ := mem_taking took
      rw [move_eq quiet indirect other] at moved
      have same := congrArg Channel.nextVersion moved
      simp [Channel.takeVersion] at same
  · push Not at other
    obtain ⟨version, own⟩ := other
    have issued := sound.pending t handover.first _ own
    obtain ⟨c', there', earlier⟩ := sound.issued k version issued
    cases there.symm.trans there'
    cases t with
    | read j u =>
      cases own
      cases queued : w.service.queue with
      | nil =>
        refine .inr (newest.of_read handover rfl ?_ theme taken)
        simp [Service.step, queued]
      | cons first queue =>
        refine .inl (upcoming_of_next handover (x := .store first) ?_ trivial)
        simp [Service.step, queued]
    | install j u source =>
      cases own
      right
      rw [move, if_pos rfl]
      refine newest.of_install handover rfl earlier (sound.current k c there) ?_ theme taken
      simp [Service.step, there]
    | _ => cases own

theorem settled_work (sound : w.Sound) (following : w.Following k)
    (listens : Listens w.service k) (there : w.service.channel? k = some c)
    (service : w'.service = (w.service.step t).1)
    (taken : w'.taken = w.service.taking t ++ w.taken)
    (handover : Handover t (w.service.step t).2 w.pending w'.pending) :
    w'.Upcoming k ∨ ∃ v, w'.Newest k (move t k c) v := by
  by_cases announces : t.Announces k
  · exact settled_of_announces sound announces listens there taken handover
  · have stays : ∀ theme, t ≠ .store theme := by
      rintro theme rfl
      exact announces trivial
    have theme : w'.service.theme = w.service.theme := by rw [service, theme_step stays]
    have indirect : ∀ theme, t ≠ .publish k theme := by
      rintro theme rfl
      exact following.indirect theme handover.first
    have extended : w.taken ⊆ w'.taken := by
      rw [taken]
      exact List.subset_append_right _ _
    rcases following.settled c listens there with upcoming | ⟨v, newest⟩
    · exact .inl (upcoming.kept handover announces)
    · exact (settled_of_newest sound newest announces indirect there theme extended handover).imp_right
        fun newest => ⟨v, newest⟩

theorem following_work (thread : Nat) (sound : w.Sound) (following : w.Following k) :
    (w.step (.work thread)).Following k := by
  rcases w.work_cases thread with same | ⟨t, service, taken, handover⟩
  · rw [same]
    exact following
  · constructor
    · intro theme member
      rcases handover.only _ member with new | before
      · exact publish_not_mem_step new
      · exact following.indirect theme before
    · intro d listens found
      rw [service, channel?_step] at found
      obtain ⟨c, there, rfl⟩ := Option.map_eq_some_iff.mp found
      have listened : Listens w.service k := by
        unfold Listens at listens ⊢
        rwa [service, Service.listeners_step] at listens
      exact settled_work sound following listened there service taken handover

/-! ### Other events -/

/-- A call begins that publishes no given theme. If the channel listens only since then, the call
leads to it reading the theme. -/
theorem following_enter {s : Service} {thread : Nat} (following : w.Following k)
    (indirect : ∀ theme, t ≠ .publish k theme) (fresh : t.version? = none)
    (theme : s.theme = w.service.theme) (channels : s.channels = w.service.channels)
    (listens : Listens s k → Listens w.service k ∨ t.Announces k) :
    Following { w with service := s, threads := enter w.threads thread t } k := by
  have pending : ∀ x, x ∈ (enter w.threads thread t).flatten ↔ x = t ∨ x ∈ w.pending :=
    fun x => mem_enter
  constructor
  · intro source member
    rcases (pending _).mp member with rfl | before
    · exact indirect source rfl
    · exact following.indirect source before
  · intro c now there
    rcases listens now with before | announces
    · have there' : w.service.channel? k = some c := by
        unfold Service.channel? at there ⊢
        rwa [channels] at there
      rcases following.settled c before there' with ⟨x, member, announces⟩ | ⟨v, newest⟩
      · exact .inl ⟨x, (pending x).mpr (.inr member), announces⟩
      · obtain ⟨last, taken, read, installed, underway⟩ := newest
        refine .inr ⟨v, last, taken, ?_, theme ▸ installed, ?_⟩
        · intro source member
          rcases (pending _).mp member with rfl | before
          · cases fresh
          · exact (read source before).trans theme.symm
        · rcases underway with done | reading | ⟨source, installing⟩
          · exact .inl done
          · exact .inr (.inl ((pending _).mpr (.inr reading)))
          · exact .inr (.inr ⟨source, (pending _).mpr (.inr installing)⟩)
    · exact .inl ⟨t, (pending t).mpr (.inl rfl), announces⟩

theorem following_service {s : Service} (following : w.Following k)
    (theme : s.theme = w.service.theme)
    (listens : ∀ c, Listens s k → s.channel? k = some c →
      Listens w.service k ∧ w.service.channel? k = some c) :
    Following { w with service := s } k := by
  refine ⟨following.indirect, ?_⟩
  intro c now there
  obtain ⟨before, there'⟩ := listens c now there
  rcases following.settled c before there' with upcoming | ⟨v, newest⟩
  · exact .inl upcoming
  · refine .inr ⟨v, newest.last, newest.taken, ?_, ?_, newest.underway⟩
    · intro source member
      rw [theme]
      exact newest.read source member
    · intro done
      rw [theme]
      exact newest.installed done

theorem following_openChannel (start : Option ThemeSource) (sound : w.Sound)
    (following : w.Following k) : (w.step (.openChannel start)).Following k := by
  refine following_service following (by cases start <;> rfl) ?_
  intro c now found
  have before : Listens w.service k := by
    obtain ⟨id, member⟩ := now
    exact ⟨id, by cases start <;> exact member⟩
  obtain ⟨id, member⟩ := before
  obtain ⟨c', there⟩ := sound.followed id k member
  have kept : (w.step (.openChannel start)).service.channel? k = some c' := by
    rw [step, channel?_newChannel, there, Option.some_or]
  exact ⟨⟨id, member⟩, there.trans (kept.symm.trans found)⟩

theorem following_step {event : Event} (indirect : ∀ thread theme, event ≠ .publish thread k theme)
    (sound : w.Sound) (following : w.Following k) : (w.step event).Following k := by
  cases event with
  | openChannel start => exact following_openChannel start sound following
  | setTheme thread theme => exact following_enter following (by simp) rfl rfl rfl .inl
  | subscribe thread j =>
    simp only [step]
    split
    · refine following_enter following (by simp) rfl rfl rfl ?_
      rintro ⟨id, member⟩
      rcases List.mem_append.mp member with before | last
      · exact .inl ⟨id, before⟩
      · cases List.mem_singleton.mp last
        exact .inr rfl
    · exact following
  | unsubscribe listener =>
    refine following_service following rfl ?_
    rintro c ⟨id, member⟩ there
    exact ⟨⟨id, (List.mem_filter.mp member).1⟩, there⟩
  | publish thread j theme =>
    simp only [step]
    split
    · refine following_enter following ?_ rfl rfl rfl .inl
      rintro source same
      cases same
      exact indirect thread theme rfl
    · exact following
  | work thread => exact following_work thread sound following

theorem following_run {events : List Event}
    (indirect : ∀ thread theme, .publish thread k theme ∉ events) (sound : w.Sound)
    (following : w.Following k) : (w.run events).Following k := by
  induction events generalizing w with
  | nil => exact following
  | cons event rest ih =>
    refine ih ?_ (step_sound event sound) (following_step ?_ sound following)
    · intro thread theme member
      exact indirect thread theme (List.mem_cons_of_mem _ member)
    · rintro thread theme rfl
      exact indirect thread theme List.mem_cons_self

/-! ### When all is done -/

/-- However calls to a service take turns and are nested, the version of a channel never goes back;
and whenever no call is under way a channel that is subscribed, and to which nothing is published
otherwise, has the snapshot of the service's theme with the largest version that was taken. -/
theorem converges (theme : ThemeSource) {events : List Event} {k : Nat}
    (indirect : ∀ thread source, .publish thread k source ∉ events) :
    let w := (start theme).run events
    (∀ event c, w.service.channel? k = some c →
      ∃ d, (w.step event).service.channel? k = some d ∧ c.version ≤ d.version) ∧
    (w.pending = [] → Listens w.service k →
      ∃ c v, w.service.channel? k = some c ∧ c.snapshot = .ofSource w.service.theme v ∧
        (k, v) ∈ w.taken ∧ ∀ u, (k, u) ∈ w.taken → u ≤ v) := by
  intro w
  have sound : w.Sound := run_sound events (sound_start theme)
  have following : w.Following k :=
    following_run indirect (sound_start theme) (following_start theme k)
  constructor
  · intro event c there
    obtain ⟨d, found, later, -⟩ := channel_step event there
    exact ⟨d, found, later⟩
  · intro done listens
    obtain ⟨c, there⟩ := listens.elim fun id => sound.followed id k
    have nothing : ∀ t, t ∉ w.pending := by simp [done]
    rcases following.settled c listens there with ⟨t, member, -⟩ | ⟨v, newest⟩
    · exact absurd member (nothing t)
    · have installed : c.version = v := by
        rcases newest.underway with installed | reading | ⟨source, installing⟩
        · exact installed
        · exact absurd reading (nothing _)
        · exact absurd installing (nothing _)
      refine ⟨c, v, there, newest.installed installed, newest.taken, ?_⟩
      intro u taken
      obtain ⟨c', there', earlier⟩ := sound.issued k u taken
      cases there.symm.trans there'
      have last := newest.last
      omega

/-- While a channel that has just been subscribed reads the theme, the theme is replaced in its own
thread and in another one; the newest version is installed first. -/
def crossing : List Event :=
  [.openChannel none, .subscribe 0 0, .work 0, .work 0,
    .setTheme 0 (Sample.stringTheme "#FF0000"), .setTheme 1 (Sample.stringTheme "#00FF00"),
    .work 0, .work 1, .work 1, .work 0, .work 0, .work 1, .work 0, .work 1, .work 0, .work 1,
    .work 1, .work 0, .work 0]

theorem converges_crossing :
    let w := (start (Sample.stringTheme "#CE9178")).run crossing
    (∀ thread source, .publish thread 0 source ∉ crossing) ∧
    (∀ event c, w.service.channel? 0 = some c →
      ∃ d, (w.step event).service.channel? 0 = some d ∧ c.version ≤ d.version) ∧
    w.pending = [] ∧ Listens w.service 0 ∧
    ∃ c v, w.service.channel? 0 = some c ∧ c.snapshot = .ofSource w.service.theme v ∧
      (0, v) ∈ w.taken ∧ ∀ u, (0, u) ∈ w.taken → u ≤ v := by
  have indirect : ∀ thread source, .publish thread 0 source ∉ crossing := by
    intro thread source
    simp [crossing]
  obtain ⟨forward, settled⟩ := converges (Sample.stringTheme "#CE9178") indirect
  have done : ((start (Sample.stringTheme "#CE9178")).run crossing).pending = [] := rfl
  have listens : Listens ((start (Sample.stringTheme "#CE9178")).run crossing).service 0 :=
    ⟨0, List.mem_cons_self⟩
  exact ⟨indirect, forward, done, listens, settled done listens⟩

end Traffic

end TokenTheme
