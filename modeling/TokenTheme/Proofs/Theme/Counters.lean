import Mathlib
import TokenTheme.Proofs.Theme.Traffic
/-!
# Counters of 64 bits

The versions of a channel and the numbers of listeners are taken from counters that start again
from 0 when a word cannot hold them any more. No run that is short enough shows it
(`runInWords_start`).
-/
namespace TokenTheme

/-- What a counter of 64 bits shows that was counted up so often. -/
def inWord (count : Nat) : Nat := count.toUInt64.toNat

theorem inWord_of_lt {count : Nat} (short : count < 2 ^ 64) : inWord count = count :=
  UInt64.toNat_ofNat_of_lt' short

def Channel.inWords (c : Channel) : Channel := { c with nextVersion := inWord c.nextVersion }

namespace Service

def inWords (s : Service) : Service :=
  { s with
    nextListener := inWord s.nextListener
    channels := s.channels.map fun e => (e.1, e.2.inWords) }

structure Within (limit : Nat) (s : Service) : Prop where
  listeners : s.nextListener ≤ limit
  versions : ∀ e ∈ s.channels, e.2.nextVersion ≤ limit

variable {s : Service} {limit : Nat}

theorem Within.mono {more : Nat} (within : s.Within limit) (later : limit ≤ more) :
    s.Within more :=
  ⟨within.listeners.trans later, fun e member => (within.versions e member).trans later⟩

theorem Within.nextVersion_le (within : s.Within limit) {j : Nat} {c : Channel}
    (found : s.channel? j = some c) : c.nextVersion ≤ limit := by
  obtain ⟨before, after, same, -⟩ := List.lookup_eq_some_iff.mp found
  exact within.versions (j, c) (by simp [same])

theorem inWords_of_within (within : s.Within limit) (short : limit < 2 ^ 64) : s.inWords = s := by
  have channels : s.channels.map (fun e => (e.1, e.2.inWords)) = s.channels := by
    conv_rhs => rw [← List.map_id s.channels]
    refine List.map_congr_left fun e member => ?_
    rw [Channel.inWords, inWord_of_lt (Nat.lt_of_le_of_lt (within.versions e member) short)]
    rfl
  rw [inWords, channels, inWord_of_lt (Nat.lt_of_le_of_lt within.listeners short)]

theorem within_setChannel {c : Channel} (within : s.Within limit) (j : Nat)
    (bound : c.nextVersion ≤ limit) : (s.setChannel j c).Within limit := by
  refine ⟨within.listeners, ?_⟩
  rintro e member
  obtain ⟨old, before, rfl⟩ := List.mem_map.mp member
  split
  · exact bound
  · exact within.versions old before

theorem within_takeVersion (within : s.Within limit) {j : Nat} {c : Channel}
    (found : s.channel? j = some c) : (s.setChannel j c.takeVersion).Within (limit + 1) := by
  have bound := Nat.succ_le_succ (within.nextVersion_le found)
  exact within_setChannel (within.mono (Nat.le_succ _)) j bound

/-- A task takes one version at most. -/
theorem within_step (t : Task) (within : s.Within limit) : (s.step t).1.Within (limit + 1) := by
  have kept := within.mono (Nat.le_succ limit)
  cases t with
  | store theme => exact ⟨kept.listeners, kept.versions⟩
  | collect theme => exact ⟨kept.listeners, kept.versions⟩
  | call listener theme => cases listener <;> exact ⟨kept.listeners, kept.versions⟩
  | takeVersion j =>
    simp only [step]
    split
    · exact kept
    · rename_i c found
      exact within_takeVersion within found
  | publish j theme =>
    simp only [step]
    split
    · exact kept
    · rename_i c found
      exact within_takeVersion within found
  | read j version =>
    simp only [step]
    split <;> exact ⟨kept.listeners, kept.versions⟩
  | install j version theme =>
    simp only [step]
    split
    · exact kept
    · rename_i c found
      have bound := kept.nextVersion_le found
      rw [← Traffic.nextVersion_install c (.ofSource theme version)] at bound
      have installed := within_setChannel kept j bound
      exact ⟨installed.listeners, installed.versions⟩

theorem within_addChannel (within : s.Within limit) {c : Channel} (bound : c.nextVersion ≤ limit) :
    (s.addChannel c).2.Within limit := by
  refine ⟨within.listeners, ?_⟩
  intro e member
  rcases List.mem_append.mp member with before | new
  · exact within.versions e before
  · obtain rfl := List.mem_singleton.mp new
    exact bound

end Service

namespace Traffic

variable {w : Traffic} {limit : Nat}

theorem within_step (event : Event) (within : w.service.Within limit) :
    (w.step event).service.Within (limit + 1) := by
  have kept := within.mono (Nat.le_succ limit)
  cases event with
  | openChannel start =>
    cases start with
    | none => exact Service.within_addChannel kept (Nat.succ_le_succ (Nat.zero_le _))
    | some theme =>
      have told : (w.service.tell (Channel.ofSource theme).snapshot.ignored).Within (limit + 1) :=
        ⟨kept.listeners, kept.versions⟩
      exact Service.within_addChannel told (Nat.succ_le_succ (Nat.zero_le _))
  | setTheme thread theme => exact kept
  | subscribe thread j =>
    simp only [step]
    split
    · exact ⟨Nat.succ_le_succ within.listeners, kept.versions⟩
    · exact kept
  | unsubscribe listener => exact ⟨kept.listeners, kept.versions⟩
  | publish thread j theme =>
    simp only [step]
    split <;> exact kept
  | work thread =>
    rcases w.work_cases thread with same | ⟨t, service, -⟩
    · rw [same]
      exact kept
    · rw [service]
      exact Service.within_step t within

/-- A step in which counters start again from 0 when a word cannot hold them. -/
def stepInWords (w : Traffic) (event : Event) : Traffic :=
  { w.step event with service := (w.step event).service.inWords }

def runInWords (w : Traffic) (events : List Event) : Traffic := events.foldl stepInWords w

theorem stepInWords_eq (event : Event) (within : w.service.Within limit)
    (short : limit + 1 < 2 ^ 64) : w.stepInWords event = w.step event := by
  rw [stepInWords, Service.inWords_of_within (within_step event within) short]

theorem runInWords_eq (events : List Event) (within : w.service.Within limit)
    (short : limit + events.length < 2 ^ 64) : w.runInWords events = w.run events := by
  induction events generalizing w limit with
  | nil => rfl
  | cons event rest ih =>
    rw [List.length_cons] at short
    show (w.stepInWords event).runInWords rest = (w.step event).run rest
    rw [stepInWords_eq event within (by omega)]
    exact ih (within_step event within) (by omega)

/-- A run from the start in which there are fewer events than words is the same in words. -/
theorem runInWords_start (theme : ThemeSource) {events : List Event}
    (short : events.length < 2 ^ 64) :
    (start theme).runInWords events = (start theme).run events := by
  refine runInWords_eq events ⟨Nat.le_refl 0, ?_⟩ (by omega)
  intro e member
  cases member

end Traffic

end TokenTheme
