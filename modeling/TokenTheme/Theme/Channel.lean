import TokenTheme.Theme.Snapshot
/-!
# Theme channels

A channel holds the snapshot of the moment. To publish a theme is first to take a version and then
to install the snapshot made for it. Where several do so at a time the newest version wins: an
older snapshot never replaces a newer one.
-/
namespace TokenTheme

structure Channel where
  snapshot : Snapshot
  /-- The version that the next one to publish takes. -/
  nextVersion : Nat
  deriving DecidableEq

namespace Channel

/-- The channel before any theme. -/
instance : Inhabited Channel := ⟨⟨default, 1⟩⟩

def ofSource (source : ThemeSource) : Channel := ⟨.ofSource source 0, 1⟩

def version (c : Channel) : Nat := c.snapshot.version

def takeVersion (c : Channel) : Channel := { c with nextVersion := c.nextVersion + 1 }

/-- Installs a snapshot, unless a newer one is there. -/
def install (c : Channel) (s : Snapshot) : Channel :=
  if s.version < c.version then c else { c with snapshot := s }

def publish (c : Channel) (source : ThemeSource) : Channel :=
  c.takeVersion.install (.ofSource source c.nextVersion)

/-- What is worth telling when a snapshot is made and installed. -/
def log (s : Snapshot) : List LogEntry :=
  s.ignored ++
    [.snapshotPublished s.version s.theme.rules.length s.palette.colors.length]

end Channel

end TokenTheme
