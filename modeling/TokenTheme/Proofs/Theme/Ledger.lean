import Mathlib
import TokenTheme.Proofs.Theme.Operations
import TokenTheme.Sample
/-!
# The ledger of a service

A ledger keeps account of what a host does: the channels and the subscriptions by number, and the
themes that were published on each channel. Whatever the host does, and in whatever order listeners
are called, the service and its channels are what the ledger says (`agrees_performAll`). So a change
of the theme leaves the same channels in every order (`channel?_setThemeIn`).
-/
namespace TokenTheme

structure Account where
  start : Option ThemeSource
  /-- The themes that were published, the last first. -/
  published : List ThemeSource := []

namespace Account

def publish (count : Nat) (theme : ThemeSource) (a : Account) : Account :=
  { a with published := List.replicate count theme ++ a.published }

def snapshot (a : Account) : Snapshot :=
  match a.published with
  | [] => (Traffic.opened a.start).snapshot
  | last :: earlier => .ofSource last (earlier.length + 1)

def channel (a : Account) : Channel := ⟨a.snapshot, a.published.length + 1⟩

theorem version_snapshot (a : Account) : a.snapshot.version = a.published.length := by
  obtain ⟨start, published⟩ := a
  cases published with
  | nil => cases start <;> rfl
  | cons last earlier => rfl

theorem publish_zero (theme : ThemeSource) (a : Account) : a.publish 0 theme = a := rfl

theorem publish_publish (m n : Nat) (theme : ThemeSource) (a : Account) :
    (a.publish m theme).publish n theme = a.publish (m + n) theme := by
  simp only [publish, ← List.append_assoc, List.replicate_append_replicate, Nat.add_comm]

theorem channel_opened (start : Option ThemeSource) :
    channel { start } = Traffic.opened start := by
  cases start <;> rfl

theorem channel_publish (theme : ThemeSource) (a : Account) :
    (a.publish 1 theme).channel = a.channel.publish theme := by
  have older : ¬ (Snapshot.ofSource theme a.channel.nextVersion).version <
      a.channel.takeVersion.version := by
    have version : a.channel.takeVersion.version = a.published.length := a.version_snapshot
    rw [version]
    exact Nat.not_lt.mpr (Nat.le_succ _)
  rw [Channel.publish, Channel.install, if_neg older]
  rfl

end Account

structure Ledger where
  theme : ThemeSource
  /-- Nothing for a channel that is dropped. -/
  accounts : List (Option Account) := []
  /-- The channel of each subscription, and nothing for one that is dropped. -/
  subscriptions : List (Option Nat) := []

namespace Ledger

def account? (l : Ledger) (channel : Nat) : Option Account := l.accounts[channel]?.join

def followers (l : Ledger) : List Nat := l.subscriptions.reduceOption

def openChannel (l : Ledger) (start : Option ThemeSource) : Ledger :=
  { l with accounts := l.accounts ++ [some { start }] }

def publish (l : Ledger) (channels : List Nat) (theme : ThemeSource) : Ledger :=
  { l with accounts := l.accounts.mapIdx fun k => Option.map (.publish (channels.count k) theme) }

def subscribe (l : Ledger) (channel : Nat) : Ledger :=
  { l with subscriptions := l.subscriptions ++ [some channel] }.publish [channel] l.theme

def change (l : Ledger) (theme : ThemeSource) : Ledger :=
  { l with theme }.publish l.followers theme

def enter (l : Ledger) : Operation → Ledger
  | .openChannel start => l.openChannel start
  | .openFollowing => (l.openChannel none).subscribe l.accounts.length
  | .subscribe channel => if (l.account? channel).isSome then l.subscribe channel else l
  | .unsubscribe subscription => { l with subscriptions := l.subscriptions.set subscription none }
  | .dropChannel channel => { l with accounts := l.accounts.set channel none }
  | .publish channel theme => l.publish [channel] theme
  | .setTheme _ theme => l.change theme
  | .setThemeFile _ file =>
    match ThemeSource.ofFile file with
    | .ok theme => l.change theme
    | .error _ => l

def enterAll (l : Ledger) (operations : List Operation) : Ledger := operations.foldl enter l

theorem account?_openChannel (l : Ledger) (start : Option ThemeSource) (k : Nat) :
    (l.openChannel start).account? k =
      (l.account? k).or (if k = l.accounts.length then some { start } else none) := by
  simp only [account?, openChannel]
  rcases Nat.lt_trichotomy k l.accounts.length with before | rfl | behind
  · rw [List.getElem?_append_left before, if_neg (Nat.ne_of_lt before), Option.or_none]
  · simp
  · rw [List.getElem?_append_right (Nat.le_of_lt behind), if_neg (Nat.ne_of_gt behind),
      Option.or_none, List.getElem?_eq_none_iff.mpr (Nat.le_of_lt behind),
      List.getElem?_eq_none_iff.mpr (Nat.le_sub_of_add_le' behind)]

theorem account?_publish (l : Ledger) (channels : List Nat) (theme : ThemeSource) (k : Nat) :
    (l.publish channels theme).account? k =
      (l.account? k).map (.publish (channels.count k) theme) := by
  simp only [account?, publish, List.getElem?_mapIdx]
  cases l.accounts[k]? <;> rfl

theorem account?_dropChannel (l : Ledger) (j k : Nat) :
    (l.enter (.dropChannel j)).account? k = if k = j then none else l.account? k := by
  simp only [enter, account?, List.getElem?_set]
  by_cases own : j = k
  · subst own
    by_cases bound : j < l.accounts.length <;> simp [bound]
  · simp [own, Ne.symm own]

theorem publish_nil (l : Ledger) (theme : ThemeSource) : l.publish [] theme = l := by
  have same : l.accounts.mapIdx (fun k => Option.map (.publish (([] : List Nat).count k) theme)) =
      l.accounts := by
    refine List.ext_getElem? fun k => ?_
    rw [List.getElem?_mapIdx]
    cases l.accounts[k]? with
    | none => rfl
    | some a => cases a <;> rfl
  rw [publish, same]

theorem publish_append (l : Ledger) (first second : List Nat) (theme : ThemeSource) :
    l.publish (first ++ second) theme = (l.publish first theme).publish second theme := by
  simp only [publish, List.mapIdx_mapIdx]
  congr 2
  funext k a
  cases a with
  | none => rfl
  | some a =>
    refine congrArg some ?_
    rw [List.count_append]
    exact (Account.publish_publish _ _ theme a).symm

theorem publish_perm (l : Ledger) {channels channels' : List Nat} (theme : ThemeSource)
    (perm : channels.Perm channels') : l.publish channels theme = l.publish channels' theme := by
  have count : ∀ k, channels.count k = channels'.count k := perm.count_eq
  simp only [publish, count]

/-! ### Listeners -/

def listener? : Option Nat × Nat → Option (Nat × Listener)
  | (channel, id) => channel.map fun k => (id, .follow k)

def listeners (l : Ledger) : List (Nat × Listener) := l.subscriptions.zipIdx.filterMap listener?

theorem zipIdx_set (subscriptions : List (Option Nat)) (id : Nat) :
    (subscriptions.set id none).zipIdx =
      subscriptions.zipIdx.map fun e => if e.2 = id then (none, e.2) else e := by
  refine List.ext_getElem? fun i => ?_
  rw [List.getElem?_zipIdx, List.getElem?_map, List.getElem?_zipIdx, List.getElem?_set]
  by_cases own : id = i
  · subst own
    by_cases bound : id < subscriptions.length <;> simp [bound]
  · cases subscriptions[i]? <;> simp [own, Ne.symm own]

theorem listeners_unsubscribe (l : Ledger) (id : Nat) :
    (l.enter (.unsubscribe id)).listeners = l.listeners.filter (·.1 ≠ id) := by
  simp only [enter, listeners, zipIdx_set, List.filterMap_map, List.filter_filterMap]
  congr 1
  funext ⟨channel, i⟩
  by_cases own : i = id <;> cases channel <;> simp [listener?, own, Option.filter]

theorem listeners_subscribe (l : Ledger) (k : Nat) :
    (l.subscribe k).listeners = l.listeners ++ [(l.subscriptions.length, .follow k)] := by
  simp [subscribe, publish, listeners, List.zipIdx_append, listener?]

theorem map_listeners (l : Ledger) : l.listeners.map Prod.snd = l.followers.map .follow := by
  have each : (fun e => (listener? e).map Prod.snd) =
      Option.map Listener.follow ∘ (Prod.fst : Option Nat × Nat → Option Nat) := by
    funext ⟨channel, i⟩
    cases channel <;> rfl
  calc l.listeners.map Prod.snd
      = (l.subscriptions.zipIdx.map Prod.fst).filterMap (Option.map .follow) := by
        rw [listeners, List.map_filterMap, each, List.filterMap_map]
    _ = l.followers.map .follow := by
        rw [List.zipIdx_map_fst, followers, List.reduceOption, List.map_filterMap]
        rfl

theorem length_listeners (l : Ledger) : l.listeners.length = l.followers.length := by
  simpa only [List.length_map] using congrArg List.length l.map_listeners

def followed? : Task → Option Nat
  | .call (.follow k) _ => some k
  | _ => none

/-- As the listeners are called, each subscription has its channel publish once. -/
theorem filterMap_calls (l : Ledger) (theme : ThemeSource) :
    (l.listeners.map fun e => .call e.2 theme).filterMap followed? = l.followers := by
  calc (l.listeners.map fun e => Task.call e.2 theme).filterMap followed?
      = (l.listeners.map Prod.snd).filterMap fun listener => followed? (.call listener theme) := by
        rw [List.filterMap_map, List.filterMap_map]
        rfl
    _ = l.followers := by
        rw [map_listeners, List.filterMap_map]
        exact List.filterMap_some

/-! ### The service is what the ledger says -/

structure Agrees (s : Service) (l : Ledger) : Prop where
  theme : s.theme = l.theme
  undisturbed : s.queue = []
  channels : ∀ k, s.channel? k = (l.account? k).map Account.channel
  nextChannel : s.nextChannel = l.accounts.length
  listeners : s.listeners = l.listeners
  nextListener : s.nextListener = l.subscriptions.length

theorem agrees_start (theme : ThemeSource) : Agrees (.ofSource theme) { theme } := by
  constructor <;> intros <;> rfl

variable {s : Service} {l : Ledger}

theorem agrees_published (k : Nat) (theme : ThemeSource) (agrees : Agrees s l) :
    Agrees (s.published k theme) (l.publish [k] theme) := by
  have channels := fun j => s.channel?_published k j theme
  obtain ⟨channels', log, frame⟩ := s.published_frame k theme
  rw [frame] at channels ⊢
  refine ⟨agrees.theme, agrees.undisturbed, ?_, ?_, agrees.listeners, agrees.nextListener⟩
  · intro j
    rw [channels, agrees.channels, account?_publish]
    cases l.account? j with
    | none => rfl
    | some a =>
      by_cases own : j = k
      · subst own
        simp [Account.channel_publish]
      · simp [own, Ne.symm own, Account.publish_zero]
  · rw [publish, List.length_mapIdx]
    exact agrees.nextChannel

theorem agrees_call (listener : Listener) (theme : ThemeSource) (agrees : Agrees s l) :
    Agrees (s.run [.call listener theme])
      (l.publish (followed? (.call listener theme)).toList l.theme) := by
  cases listener with
  | note label =>
    rw [Service.run, List.append_nil, Service.step, Service.run_nil]
    simp only [followed?, Option.toList, publish_nil]
    exact ⟨agrees.theme, agrees.undisturbed, agrees.channels, agrees.nextChannel, agrees.listeners,
      agrees.nextListener⟩
  | follow k =>
    rw [Service.run_follow agrees.undisturbed, agrees.theme]
    exact agrees_published k l.theme agrees

theorem agrees_calls {calls : List Task}
    (called : ∀ t ∈ calls, ∃ listener theme, t = .call listener theme) (agrees : Agrees s l) :
    Agrees (s.run calls) (l.publish (calls.filterMap followed?) l.theme) := by
  induction calls generalizing s l with
  | nil =>
    rw [Service.run_nil, List.filterMap_nil, publish_nil]
    exact agrees
  | cons t rest ih =>
    obtain ⟨listener, theme, rfl⟩ := called t List.mem_cons_self
    have first := agrees_call listener theme agrees
    -- The queue is empty again after the first call, so the next one reads the same theme.
    have others := ih (fun t member => called t (List.mem_cons_of_mem _ member)) first
    have split : (Task.call listener theme :: rest).filterMap followed? =
        (followed? (.call listener theme)).toList ++ rest.filterMap followed? := by
      rw [List.filterMap_cons]
      cases followed? (.call listener theme) <;> rfl
    rw [split, publish_append, ← List.singleton_append, Service.run_append]
    exact others

theorem agrees_setThemeIn (order : Order) (theme : ThemeSource) (agrees : Agrees s l) :
    Agrees (s.setThemeIn order theme) (l.change theme) := by
  have told : Agrees ({ s with theme }.step (.collect theme)).1 { l with theme } :=
    ⟨rfl, agrees.undisturbed, agrees.channels, agrees.nextChannel, agrees.listeners,
      agrees.nextListener⟩
  have perm := order.perm (s.listeners.map fun e => .call e.2 theme)
  have called : ∀ t ∈ order.arrange (s.listeners.map fun e => .call e.2 theme),
      ∃ listener theme, t = .call listener theme := by
    intro t member
    obtain ⟨e, -, rfl⟩ := List.mem_map.mp (perm.mem_iff.mp member)
    exact ⟨e.2, theme, rfl⟩
  -- In another order the same channels are listed, each as many times.
  rw [change, ← l.filterMap_calls theme, ← agrees.listeners,
    ← publish_perm _ theme (perm.filterMap followed?)]
  exact agrees_calls called told

theorem channel?_setThemeIn (order : Order) (theme : ThemeSource) (k : Nat) (agrees : Agrees s l) :
    (s.setThemeIn order theme).channel? k = (s.setTheme theme).channel? k := by
  rw [← s.setThemeIn_arrival, (agrees_setThemeIn order theme agrees).channels,
    (agrees_setThemeIn .arrival theme agrees).channels]

theorem agrees_openChannel (start : Option ThemeSource) (agrees : Agrees s l) :
    Agrees (s.newChannel start).2 (l.openChannel start) := by
  have channels : ∀ k, (s.newChannel start).2.channel? k =
      ((l.openChannel start).account? k).map Account.channel := by
    intro k
    rw [Traffic.channel?_newChannel, account?_openChannel, agrees.channels, agrees.nextChannel]
    cases l.account? k with
    | some a => rfl
    | none =>
      simp only [Option.map_none, Option.none_or]
      split
      · rw [Option.map_some, Account.channel_opened]
      · rfl
  have count : s.nextChannel + 1 = (l.openChannel start).accounts.length := by
    rw [agrees.nextChannel, openChannel, List.length_append, List.length_singleton]
  cases start <;>
    exact ⟨agrees.theme, agrees.undisturbed, channels, count, agrees.listeners,
      agrees.nextListener⟩

theorem agrees_subscribe (k : Nat) (agrees : Agrees s l) :
    Agrees (s.subscribe k).2 (l.subscribe k) := by
  have listens : Agrees (s.listen (.follow k)).2
      { l with subscriptions := l.subscriptions ++ [some k] } := by
    refine ⟨agrees.theme, agrees.undisturbed, agrees.channels, agrees.nextChannel, ?_, ?_⟩
    · have appended := l.listeners_subscribe k
      rw [← agrees.listeners, ← agrees.nextListener] at appended
      exact appended.symm
    · rw [List.length_append, ← agrees.nextListener]
      rfl
  have published : (s.subscribe k).2 = (s.listen (.follow k)).2.published k l.theme := by
    have run := Service.run_takeVersion listens.undisturbed k
    rw [listens.theme] at run
    exact run
  rw [published]
  exact agrees_published k l.theme listens

theorem agrees_unsubscribe (id : Nat) (agrees : Agrees s l) :
    Agrees (s.removeListener id) (l.enter (.unsubscribe id)) := by
  refine ⟨agrees.theme, agrees.undisturbed, agrees.channels, agrees.nextChannel, ?_, ?_⟩
  · rw [listeners_unsubscribe, ← agrees.listeners]
    rfl
  · rw [enter, List.length_set]
    exact agrees.nextListener

theorem agrees_dropChannel (k : Nat) (agrees : Agrees s l) :
    Agrees (s.dropChannel k) (l.enter (.dropChannel k)) := by
  refine ⟨agrees.theme, agrees.undisturbed, ?_, ?_, agrees.listeners, agrees.nextListener⟩
  · intro j
    rw [Service.channel?_dropChannel, account?_dropChannel, agrees.channels]
    split <;> rfl
  · rw [enter, List.length_set]
    exact agrees.nextChannel

theorem agrees_perform (operation : Operation) (agrees : Agrees s l) :
    Agrees (s.perform operation) (l.enter operation) := by
  cases operation with
  | openChannel start => exact agrees_openChannel start agrees
  | openFollowing =>
    have opened := agrees_openChannel none agrees
    simp only [Service.perform, enter, ← agrees.nextChannel]
    exact agrees_subscribe s.nextChannel opened
  | subscribe k =>
    simp only [Service.perform, enter, agrees.channels, Option.isSome_map]
    split
    · exact agrees_subscribe k agrees
    · exact agrees
  | unsubscribe id => exact agrees_unsubscribe id agrees
  | dropChannel k => exact agrees_dropChannel k agrees
  | publish k theme =>
    simp only [Service.perform, Service.publish, Service.run_publish]
    exact agrees_published k theme agrees
  | setTheme order theme => exact agrees_setThemeIn order theme agrees
  | setThemeFile order file =>
    simp only [Service.perform, Service.setThemeFileIn, enter]
    cases ThemeSource.ofFile file with
    | error e => exact agrees
    | ok theme => exact agrees_setThemeIn order theme agrees

theorem agrees_performAll (operations : List Operation) (agrees : Agrees s l) :
    Agrees (s.performAll operations) (l.enterAll operations) := by
  induction operations generalizing s l with
  | nil => exact agrees
  | cons operation rest ih => exact ih (agrees_perform operation agrees)

/-! ### Channels without a subscription -/

theorem account?_publish_other {channels : List Nat} {k : Nat} (theme : ThemeSource)
    (other : k ∉ channels) : (l.publish channels theme).account? k = l.account? k := by
  rw [account?_publish, List.count_eq_zero_of_not_mem other]
  cases l.account? k <;> rfl

theorem account?_publish_single {j k : Nat} (theme : ThemeSource) (other : j ≠ k) :
    (l.publish [j] theme).account? k = l.account? k :=
  account?_publish_other theme (List.mem_singleton.not.mpr (Ne.symm other))

theorem lt_of_account? {k : Nat} {a : Account} (there : l.account? k = some a) :
    k < l.accounts.length := by
  by_contra behind
  rw [account?, List.getElem?_eq_none_iff.mpr (Nat.not_lt.mp behind)] at there
  cases there

theorem account?_enter {k : Nat} {a : Account} (operation : Operation) (alone : k ∉ l.followers)
    (there : l.account? k = some a) :
    (l.enter operation).account? k = some a ∨ operation = .dropChannel k ∨
      operation = .subscribe k ∨ ∃ theme, operation = .publish k theme := by
  have changed : ∀ theme, (l.change theme).account? k = some a := by
    intro theme
    exact (account?_publish_other theme alone).trans there
  cases operation with
  | openChannel start =>
    left
    rw [enter, account?_openChannel, there, Option.some_or]
  | openFollowing =>
    left
    have other : l.accounts.length ≠ k := Nat.ne_of_gt (lt_of_account? there)
    have kept : (l.openChannel none).account? k = some a := by
      rw [account?_openChannel, there, Option.some_or]
    exact (account?_publish_single _ other).trans kept
  | subscribe j =>
    by_cases own : j = k
    · exact .inr (.inr (.inl (by rw [own])))
    · left
      simp only [enter]
      split
      · exact (account?_publish_single _ own).trans there
      · exact there
  | unsubscribe id => exact .inl there
  | dropChannel j =>
    by_cases own : j = k
    · exact .inr (.inl (by rw [own]))
    · left
      rw [account?_dropChannel, if_neg (Ne.symm own)]
      exact there
  | publish j theme =>
    by_cases own : j = k
    · exact .inr (.inr (.inr ⟨theme, by rw [own]⟩))
    · exact .inl ((account?_publish_single theme own).trans there)
  | setTheme order theme => exact .inl (changed theme)
  | setThemeFile order file =>
    left
    simp only [enter]
    split
    · exact changed _
    · exact there

/-- After any operations, and in whatever order listeners are called: the numbers given out are
those of the ledger, there are as many listeners as subscriptions that were not dropped, and each
channel has as its version the number of publications on it and the snapshot of the last one. What
comes next changes a channel without a subscription only if it is published directly, and changes
nothing if a file has no theme. -/
theorem accounts_performAll (theme : ThemeSource) (operations : List Operation) :
    let s := (Service.ofSource theme).performAll operations
    let l := Ledger.enterAll { theme } operations
    s.theme = l.theme ∧ s.nextChannel = l.accounts.length ∧
    s.nextListener = l.subscriptions.length ∧ s.listeners.length = l.followers.length ∧
    (∀ k, (s.channel? k).isSome = (l.account? k).isSome) ∧
    (∀ k a c, l.account? k = some a → s.channel? k = some c →
      c.version = a.published.length ∧ c.snapshot = a.snapshot) ∧
    (∀ operation k c, k ∉ l.followers → s.channel? k = some c →
      (s.perform operation).channel? k = some c ∨ operation = .dropChannel k ∨
        operation = .subscribe k ∨ ∃ source, operation = .publish k source) ∧
    ∀ order file error, ThemeSource.ofFile file = .error error →
      s.setThemeFileIn order file = .error error ∧ s.perform (.setThemeFile order file) = s := by
  intro s l
  have agrees : Agrees s l := agrees_performAll operations (agrees_start theme)
  refine ⟨agrees.theme, agrees.nextChannel, agrees.nextListener, ?_, ?_, ?_, ?_, ?_⟩
  · rw [agrees.listeners, length_listeners]
  · intro k
    rw [agrees.channels, Option.isSome_map]
  · intro k a c recorded there
    rw [agrees.channels, recorded] at there
    cases there
    exact ⟨a.version_snapshot, rfl⟩
  · intro operation k c alone there
    rw [agrees.channels] at there
    obtain ⟨a, recorded, rfl⟩ := Option.map_eq_some_iff.mp there
    refine (account?_enter operation alone recorded).imp_left ?_
    intro kept
    rw [(agrees_perform operation agrees).channels, kept, Option.map_some]
  · intro order file error failed
    have unset : s.setThemeFileIn order file = .error error := by
      rw [Service.setThemeFileIn, failed]
      rfl
    refine ⟨unset, ?_⟩
    rw [Service.perform, unset]

/-- A channel has two subscriptions and loses both, another one is dropped before its own. -/
def crowded : List Operation :=
  [.openChannel (some (Sample.stringTheme "#CE9178")), .subscribe 0, .subscribe 0, .openFollowing,
    .setTheme .reverse (Sample.stringTheme "#FF0000"), .unsubscribe 0, .dropChannel 1,
    .setThemeFile .arrival .missing, .publish 0 (Sample.stringTheme "#00FF00"),
    .setTheme .arrival (Sample.stringTheme "#0000FF"), .unsubscribe 1]

theorem accounts_performAll_crowded :
    let s := (Service.ofSource (Sample.stringTheme "#CE9178")).performAll crowded
    s.listeners.length = 1 ∧ s.channel? 1 = none ∧
    (∃ c, s.channel? 0 = some c ∧ c.version = 6 ∧
      c.snapshot = .ofSource (Sample.stringTheme "#0000FF") 6 ∧
      ∀ source, (s.perform (.setTheme .reverse source)).channel? 0 = some c) ∧
    s.perform (.setThemeFile .arrival .missing) = s := by
  intro s
  obtain ⟨-, -, -, listeners, channels, current, alone, failed⟩ :=
    accounts_performAll (Sample.stringTheme "#CE9178") crowded
  have dropped : s.channel? 1 = none := Option.isNone_iff_eq_none.mp (by
    rw [← Option.not_isSome, channels 1]
    rfl)
  obtain ⟨c, there⟩ := Option.isSome_iff_exists.mp (channels 0)
  obtain ⟨version, snapshot⟩ := current 0 _ c rfl there
  have unset := (failed .arrival .missing _ rfl).2
  refine ⟨listeners, dropped, ⟨c, there, version, snapshot, ?_⟩, unset⟩
  intro source
  have outcome := alone (.setTheme .reverse source) 0 c (by decide) there
  rcases outcome with kept | other | other | ⟨_, other⟩
  · exact kept
  all_goals cases other

end Ledger

end TokenTheme
