import Mathlib
import TokenTheme.Proofs.Theme.Traffic
/-!
# One operation after the other

A host does one operation after the other on a service and any number of channels. The listeners
of one change may be called in any order; the service itself calls them as they came
(`setThemeFileIn_arrival`). With one operation at a time nothing comes between a version that is
taken and its snapshot, so each call of a listener is a publication as a whole (`run_follow`).
-/
namespace TokenTheme

structure Order where
  arrange : List Task → List Task
  perm : ∀ calls, (arrange calls).Perm calls

def Order.arrival : Order := ⟨id, List.Perm.refl⟩

def Order.reverse : Order := ⟨List.reverse, List.reverse_perm⟩

inductive Operation where
  | openChannel (start : Option ThemeSource)
  /-- Opens a channel without a theme, to follow the service. -/
  | openFollowing
  | subscribe (channel : Nat)
  | unsubscribe (subscription : Nat)
  | dropChannel (channel : Nat)
  | publish (channel : Nat) (theme : ThemeSource)
  | setTheme (order : Order) (theme : ThemeSource)
  | setThemeFile (order : Order) (file : File)

namespace Service

def setThemeIn (s : Service) (order : Order) (theme : ThemeSource) : Service :=
  let (s, calls) := { s with theme }.step (.collect theme)
  s.run (order.arrange calls)

def setThemeFileIn (s : Service) (order : Order) (file : File) : Except Error Service :=
  s.setThemeIn order <$> ThemeSource.ofFile file

def perform (s : Service) : Operation → Service
  | .openChannel start => (s.newChannel start).2
  | .openFollowing =>
    let (channel, s) := s.newChannel none
    (s.subscribe channel).2
  | .subscribe channel => if (s.channel? channel).isSome then (s.subscribe channel).2 else s
  | .unsubscribe subscription => s.removeListener subscription
  | .dropChannel channel => s.dropChannel channel
  | .publish channel theme => s.publish channel theme
  | .setTheme order theme => s.setThemeIn order theme
  | .setThemeFile order file =>
    match s.setThemeFileIn order file with
    | .ok s' => s'
    | .error _ => s

def performAll (s : Service) (operations : List Operation) : Service := operations.foldl perform s

theorem run_nil (s : Service) : s.run [] = s := by
  rw [run]

theorem run_append (s : Service) (first second : List Task) :
    s.run (first ++ second) = (s.run first).run second := by
  induction s, first using run.induct with
  | case1 s => rw [List.nil_append, run_nil]
  | case2 s t rest ih =>
    rw [List.append_assoc] at ih
    conv_lhs => rw [List.cons_append, run, ih]
    conv_rhs => rw [run]

theorem setThemeIn_arrival (s : Service) (theme : ThemeSource) :
    s.setThemeIn .arrival theme = s.setTheme theme := by
  rw [setTheme, run, List.append_nil, step, run, List.append_nil]
  rfl

theorem setThemeFileIn_arrival (s : Service) (file : File) :
    s.setThemeFileIn .arrival file = s.setThemeFile file := by
  rw [setThemeFileIn, setThemeFile, funext s.setThemeIn_arrival]

theorem channel?_dropChannel (s : Service) (j k : Nat) :
    (s.dropChannel j).channel? k = if k = j then none else s.channel? k := by
  unfold channel? dropChannel
  induction s.channels with
  | nil => simp
  | cons e rest ih =>
    obtain ⟨i, c⟩ := e
    by_cases same : k = i
    · subst same
      by_cases own : k = j
      · simpa [own] using ih
      · simp [own]
    · by_cases dropped : i = j
      · subst dropped
        simpa [List.lookup_cons, same, beq_false_of_ne same] using ih
      · simpa [List.lookup_cons, dropped, beq_false_of_ne same] using ih

/-! ### A publication -/

theorem setChannel_setChannel (s : Service) (k : Nat) (c d : Channel) :
    (s.setChannel k c).setChannel k d = s.setChannel k d := by
  unfold setChannel
  rw [List.map_map]
  congr 2
  funext e
  by_cases own : e.1 = k <;> simp [own]

/-- What comes of a theme being published on a channel, if that is there. -/
def published (s : Service) (k : Nat) (theme : ThemeSource) : Service :=
  match s.channel? k with
  | none => s
  | some c => (s.setChannel k (c.publish theme)).tell (Channel.log (.ofSource theme c.nextVersion))

theorem published_frame (s : Service) (k : Nat) (theme : ThemeSource) :
    ∃ channels log, s.published k theme = { s with channels, log } := by
  unfold published
  split
  · exact ⟨s.channels, s.log, rfl⟩
  · exact ⟨_, _, rfl⟩

theorem channel?_published (s : Service) (j k : Nat) (theme : ThemeSource) :
    (s.published j theme).channel? k =
      (s.channel? k).map fun c => if k = j then c.publish theme else c := by
  refine Eq.trans ?_ (Traffic.channel?_replaced s j k (Channel.publish · theme))
  unfold published
  cases s.channel? j <;> rfl

theorem run_install {s : Service} {k : Nat} {c : Channel} (theme : ThemeSource)
    (there : s.channel? k = some c) :
    (s.setChannel k c.takeVersion).run [.install k c.nextVersion theme] = s.published k theme := by
  have taken : (s.setChannel k c.takeVersion).channel? k = some c.takeVersion := by
    rw [Traffic.channel?_setChannel, if_pos rfl, there]
    rfl
  rw [run, List.append_nil]
  simp only [step, taken, published, there, setChannel_setChannel]
  exact run_nil _

theorem run_publish (s : Service) (k : Nat) (theme : ThemeSource) :
    s.run [.publish k theme] = s.published k theme := by
  rw [run, List.append_nil, step]
  cases there : s.channel? k with
  | none =>
    rw [published, there]
    exact run_nil s
  | some c => exact run_install theme there

variable {s : Service} (undisturbed : s.queue = [])
include undisturbed

theorem run_takeVersion (k : Nat) : s.run [.takeVersion k] = s.published k s.theme := by
  rw [run, List.append_nil, step]
  cases there : s.channel? k with
  | none =>
    rw [published, there]
    exact run_nil s
  | some c =>
    have queue : (s.setChannel k c.takeVersion).queue = [] := undisturbed
    refine Eq.trans ?_ (run_install s.theme there)
    simp only
    rw [run, List.append_nil, step, queue]
    rfl

theorem run_follow (k : Nat) (theme : ThemeSource) :
    s.run [.call (.follow k) theme] = s.published k s.theme := by
  rw [run, List.append_nil, step]
  cases there : s.channel? k with
  | none =>
    rw [published, there]
    exact run_nil s
  | some c => exact run_takeVersion undisturbed k

end Service

end TokenTheme
