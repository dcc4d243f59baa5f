import EnergyMeter.Files.View

/-!
# Snapshots

A snapshot holds answers of a file system that were asked for beforehand. It
gives the same answers again; what was not asked for is not there.
-/

namespace EnergyMeter.Files

/-- Answers about some paths. -/
structure Snapshot where
  /-- The contents of files. -/
  files : List (Path × Except Fault ByteArray)
  /-- The names in directories. -/
  directories : List (Path × Except Fault (List String))
  /-- The paths that lead to something. -/
  present : List Path

namespace Snapshot

/-- The snapshot that holds no answer. -/
def empty : Snapshot := ⟨[], [], []⟩

/-- The answers of two snapshots; those of the first come first. -/
def append (a b : Snapshot) : Snapshot :=
  ⟨a.files ++ b.files, a.directories ++ b.directories, a.present ++ b.present⟩

/-- The answers that a snapshot gives. -/
def view (s : Snapshot) : View where
  read p := (s.files.lookup p).getD (.error .notFound)
  list p := (s.directories.lookup p).getD (.error .notFound)
  leadsTo p := s.present.contains p

end Snapshot

end EnergyMeter.Files
