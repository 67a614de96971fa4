import TokenTheme.Theme.Channel
/-!
# The theme service

The service holds the current theme and tells listeners when it is replaced. A listener takes
note of the theme or is a channel that follows the service: it takes a version, reads the theme
back from the service and installs the snapshot. The theme may be replaced again while it is being
read; this is what the queue is for. Everything is done in small tasks, of which each may put
others in its own place.
-/
namespace TokenTheme

inductive Listener where
  /-- Has a channel publish the theme of the service, if the channel is still there. -/
  | follow (channel : Nat)
  /-- Takes note of the theme under a label. -/
  | note (label : String)
  deriving DecidableEq, Inhabited

structure Note where
  label : String
  theme : Option String
  deriving DecidableEq, Inhabited

inductive Task where
  | store (theme : ThemeSource)
  /-- Collects the listeners that there are. -/
  | collect (theme : ThemeSource)
  | call (listener : Listener) (theme : ThemeSource)
  /-- Takes a version of a channel, to publish the theme of the service. -/
  | takeVersion (channel : Nat)
  /-- Takes a version of a channel, to publish the given theme. -/
  | publish (channel : Nat) (theme : ThemeSource)
  | read (channel version : Nat)
  | install (channel version : Nat) (theme : ThemeSource)
  deriving Inhabited

/-- The service, and the channels that may follow it. -/
structure Service where
  theme : ThemeSource
  /-- Themes that replace the current one while it is being read, one for each reading. -/
  queue : List ThemeSource := []
  /-- The listeners by number, in the order in which they came. -/
  listeners : List (Nat × Listener) := []
  nextListener : Nat := 0
  channels : List (Nat × Channel) := []
  nextChannel : Nat := 0
  /-- What listeners took note of, the last first. -/
  notes : List Note := []
  /-- What was worth telling, the last first. -/
  log : List LogEntry := []
  deriving Inhabited

namespace Service

def channel? (s : Service) (channel : Nat) : Option Channel := s.channels.lookup channel

/-- Puts a channel in the place of the one with its number. -/
def setChannel (s : Service) (channel : Nat) (c : Channel) : Service :=
  { s with channels := s.channels.map fun e => if e.1 = channel then (channel, c) else e }

def tell (s : Service) (entries : List LogEntry) : Service :=
  { s with log := entries.reverse ++ s.log }

/-- Does a task; gives the tasks that come in its place. -/
def step (s : Service) : Task → Service × List Task
  | .store theme => ({ s with theme }, [.collect theme])
  | .collect theme =>
    (s.tell [.themeSet theme.name s.listeners.length],
      s.listeners.map fun e => .call e.2 theme)
  | .call (.note label) theme => ({ s with notes := ⟨label, theme.name⟩ :: s.notes }, [])
  | .call (.follow channel) _ =>
    (s, if (s.channel? channel).isSome then [.takeVersion channel] else [])
  | .takeVersion channel =>
    match s.channel? channel with
    | none => (s, [])
    | some c => (s.setChannel channel c.takeVersion, [.read channel c.nextVersion])
  | .publish channel theme =>
    match s.channel? channel with
    | none => (s, [])
    | some c => (s.setChannel channel c.takeVersion, [.install channel c.nextVersion theme])
  | .read channel version =>
    match s.queue with
    | [] => (s, [.install channel version s.theme])
    | next :: queue =>
      ({ s with queue }, [.store next, .install channel version s.theme])
  | .install channel version theme =>
    match s.channel? channel with
    | none => (s, [])
    | some c =>
      let snapshot := Snapshot.ofSource theme version
      ((s.setChannel channel (c.install snapshot)).tell (Channel.log snapshot), [])

/-- A bound on the steps that a task leads to when there are so many listeners, queued themes left
aside. -/
def cost (listeners : Nat) : Task → Nat
  | .store _ => 4 * listeners + 2
  | .collect _ => 4 * listeners + 1
  | .call .. => 4
  | .takeVersion _ => 3
  | .publish .. => 2
  | .read .. => 2
  | .install .. => 1

def costs (listeners : Nat) : List Task → Nat
  | [] => 0
  | t :: rest => cost listeners t + costs listeners rest

/-- A bound on the steps that are left: each queued theme may be stored once. -/
def bound (s : Service) (tasks : List Task) : Nat :=
  costs s.listeners.length tasks + s.queue.length * (4 * s.listeners.length + 2)

theorem costs_calls (n : Nat) (theme : ThemeSource) (l : List (Nat × Listener)) :
    costs n (l.map fun e => .call e.2 theme) = 4 * l.length := by
  induction l with
  | nil => rfl
  | cons e rest ih =>
    simp only [costs, List.map_cons, cost, List.length_cons, ih]
    omega

theorem costs_append (n : Nat) (l l' : List Task) :
    costs n (l ++ l') = costs n l + costs n l' := by
  induction l with
  | nil => simp [costs]
  | cons t rest ih => simp only [List.cons_append, costs, ih, Nat.add_assoc]

theorem bound_step (s : Service) (t : Task) :
    (s.step t).1.bound (s.step t).2 < s.bound [t] := by
  cases t with
  | store theme => simp [step, bound, costs, cost]
  | collect theme =>
    simp only [step, bound, tell, costs_calls]
    simp [costs, cost]
  | call listener theme =>
    cases listener with
    | note label => simp [step, bound, costs, cost]
    | follow channel => simp only [step]; split <;> simp [bound, costs, cost]
  | takeVersion channel => simp only [step]; split <;> simp [bound, costs, cost, setChannel]
  | publish channel theme => simp only [step]; split <;> simp [bound, costs, cost, setChannel]
  | read channel version =>
    simp only [step]
    split
    · simp [bound, costs, cost]
    · rename_i next queue eq
      simp only [bound, costs, cost, eq, List.length_cons, Nat.add_mul]
      omega
  | install channel version theme =>
    simp only [step]; split <;> simp [bound, costs, cost, setChannel, tell]

theorem bound_append (s : Service) (l l' : List Task) :
    s.bound (l ++ l') = s.bound l + costs s.listeners.length l' := by
  simp only [bound, costs_append]
  omega

theorem listeners_step (s : Service) (t : Task) : (s.step t).1.listeners = s.listeners := by
  cases t with
  | call listener theme => cases listener <;> rfl
  | takeVersion | publish | read | install => simp only [step]; split <;> rfl
  | _ => rfl

/-- Does tasks, and those they lead to, one after the other. -/
def run (s : Service) : List Task → Service
  | [] => s
  | t :: rest => run (s.step t).1 ((s.step t).2 ++ rest)
termination_by tasks => s.bound tasks
decreasing_by
  have step := s.bound_step t
  rw [show t :: rest = [t] ++ rest from rfl, bound_append, bound_append, listeners_step]
  omega

/-! ### What a host does -/

def ofSource (theme : ThemeSource) : Service := { theme }

def setTheme (s : Service) (theme : ThemeSource) : Service := s.run [.store theme]

/-- Replaces the theme by the one in a file; a file without one changes nothing. -/
def setThemeFile (s : Service) (file : File) : Except Error Service :=
  s.setTheme <$> ThemeSource.ofFile file

/-- Tells every listener of a theme, whatever the current one is. -/
def notify (s : Service) (theme : ThemeSource) : Service :=
  s.run (s.listeners.map fun e => .call e.2 theme)

/-- Has a theme replace the current one the next time that is read. -/
def enqueue (s : Service) (theme : ThemeSource) : Service :=
  { s with queue := s.queue ++ [theme] }

def listen (s : Service) (listener : Listener) : Nat × Service :=
  (s.nextListener, { s with
    listeners := s.listeners ++ [(s.nextListener, listener)]
    nextListener := s.nextListener + 1 })

def removeListener (s : Service) (id : Nat) : Service :=
  { s with listeners := s.listeners.filter (·.1 ≠ id) }

def addChannel (s : Service) (c : Channel) : Nat × Service :=
  (s.nextChannel, { s with
    channels := s.channels ++ [(s.nextChannel, c)]
    nextChannel := s.nextChannel + 1 })

/-- Adds a channel that starts with a theme, or with none. -/
def newChannel (s : Service) : Option ThemeSource → Nat × Service
  | none => s.addChannel default
  | some theme =>
    let c := Channel.ofSource theme
    (s.tell c.snapshot.ignored).addChannel c

/-- Drops a channel; listeners of it do nothing from then on. -/
def dropChannel (s : Service) (channel : Nat) : Service :=
  { s with channels := s.channels.filter (·.1 ≠ channel) }

/-- Has a channel follow the service. It listens first and then publishes the current theme, so a
change in between is not missed. Gives the number of the listener. -/
def subscribe (s : Service) (channel : Nat) : Nat × Service :=
  let (id, s) := s.listen (.follow channel)
  (id, s.run [.takeVersion channel])

def publish (s : Service) (channel : Nat) (theme : ThemeSource) : Service :=
  s.run [.publish channel theme]

def describe (s : Service) : String :=
  s!"LocalThemeService \x7b theme: {Text.quotedOption s.theme.name}, " ++
    s!"listeners: {s.listeners.length} \x7d"

end Service

end TokenTheme
