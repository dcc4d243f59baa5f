import EnergyMeter.Files.View

/-!
# Directory trees

A tree is a table from locations to entries, a location being the names on the
way down from the root. Modes hold the owner's permissions. Looking a path up
needs search permission in every directory it goes through, follows at most
`linkLimit` links, and distinguishes a last name that is not there (an entry
could be made) from every other failure.
-/

namespace EnergyMeter.Files

/-- The owner's permissions on an entry. -/
structure Mode where
  /-- The content may be read, a directory listed. -/
  read : Bool
  /-- The content may be replaced, entries made and removed. -/
  write : Bool
  /-- Entries of a directory may be looked up. -/
  search : Bool
  deriving DecidableEq, Repr

namespace Mode

/-- The mode of a new file. -/
def newFile : Mode := ⟨true, true, false⟩

/-- The mode of a new directory. -/
def newDirectory : Mode := ⟨true, true, true⟩

/-- The owner's permissions in a numeric mode. -/
def ofBits (n : Nat) : Mode :=
  ⟨n / 0o400 % 2 = 1, n / 0o200 % 2 = 1, n / 0o100 % 2 = 1⟩

end Mode

/-- The names on the way from the root to an entry. -/
abbrev Location := List String

/-- What stands at a location. -/
inductive Entry where
  /-- A file with its bytes. -/
  | file (mode : Mode) (content : ByteArray)
  /-- A directory; its entries stand at the locations below it. -/
  | directory (mode : Mode)
  /-- A symbolic link. -/
  | link (target : Path)

/-- A file system as a table of entries. -/
structure Tree where
  /-- The entries below the root, each location once. -/
  entries : List (Location × Entry)

/-- Where a path leads. -/
inductive Target where
  /-- An entry is there. -/
  | present (location : Location)
  /-- Nothing is there, but its directory is. -/
  | absent (location : Location)
  deriving DecidableEq, Repr

/-- How many links one look-up follows. -/
def linkLimit : Nat := 40

/-- How many bytes a name may have. -/
def nameLimit : Nat := 255

/-- How many bytes a path has to stay below. -/
def pathLimit : Nat := 4096

namespace Tree

/-- The tree that holds the root directory alone. -/
def empty : Tree := ⟨[]⟩

/-- The entry at a location; the root is a directory. -/
def find? (t : Tree) (l : Location) : Option Entry :=
  if l = [] then some (.directory .newDirectory) else t.entries.lookup l

/-- The mode of the directory at a location. -/
def directory? (t : Tree) (l : Location) : Option Mode :=
  match t.find? l with
  | some (.directory mode) => some mode
  | _ => none

/-- Puts an entry at a location, in place of one that is there. -/
def put (t : Tree) (l : Location) (e : Entry) : Tree :=
  if (t.entries.lookup l).isSome then
    ⟨t.entries.map fun x => if x.1 = l then (l, e) else x⟩
  else
    ⟨t.entries ++ [(l, e)]⟩

/-- Takes away a location and all below it. -/
def cut (t : Tree) (l : Location) : Tree :=
  ⟨t.entries.filter fun x => !(l.isPrefixOf x.1)⟩

/-- The names in the directory at a location. -/
def names (t : Tree) (l : Location) : List String :=
  t.entries.filterMap fun x =>
    if x.1 ≠ [] && x.1.dropLast = l then x.1.getLast? else none

/-- Goes along steps from a location. The link at the last step is followed if
`follow` is set. -/
def walk (t : Tree) (follow : Bool) (links : Nat) (l : Location) :
    List Step → Except Fault Target
  | [] => .ok (.present l)
  | step :: rest =>
    match t.directory? l with
    | none => .error .notDirectory
    | some mode =>
      if step = .directory then walk t follow links l rest
      else if !mode.search then .error .permissionDenied
      else
        match step with
        | .here | .directory => walk t follow links l rest
        | .up => walk t follow links l.dropLast rest
        | .entry name =>
          if nameLimit < name.utf8ByteSize then .error .nameTooLong
          else
            match t.find? (l ++ [name]) with
            | none => if rest.isEmpty then .ok (.absent (l ++ [name])) else .error .notFound
            | some (.link target) =>
              if rest.isEmpty && !follow then .ok (.present (l ++ [name]))
              else
                match links with
                | 0 => .error .linkLoop
                | n + 1 =>
                  let start := if target.isAbsolute then [] else l
                  walk t follow n start (target.steps ++ rest)
            | some _ => walk t follow links (l ++ [name]) rest
termination_by steps => (links, steps.length)

/-- Looks a path up from the root. -/
def locate (t : Tree) (follow : Bool) (p : Path) : Except Fault Target :=
  if p.text.toList.contains '\x00' then .error .zeroInPath
  else if p.text = "" then .error .notFound
  else if pathLimit ≤ p.text.utf8ByteSize then .error .nameTooLong
  else t.walk follow linkLimit [] p.steps

/-- The entry that a path leads to, links followed. -/
def open? (t : Tree) (p : Path) : Except Fault (Location × Entry) :=
  match t.locate true p with
  | .error fault => .error fault
  | .ok (.absent _) => .error .notFound
  | .ok (.present l) =>
    match t.find? l with
    | some e => .ok (l, e)
    | none => .error .notFound

/-- The bytes of the file that a path leads to. -/
def read (t : Tree) (p : Path) : Except Fault ByteArray :=
  match t.open? p with
  | .error fault => .error fault
  | .ok (_, .file mode content) => if mode.read then .ok content else .error .permissionDenied
  | .ok (_, .directory mode) => .error (if mode.read then .isDirectory else .permissionDenied)
  | .ok (_, .link _) => .error .linkLoop

/-- The names in the directory that a path leads to. -/
def list (t : Tree) (p : Path) : Except Fault (List String) :=
  match t.open? p with
  | .error fault => .error fault
  | .ok (l, .directory mode) => if mode.read then .ok (t.names l) else .error .permissionDenied
  | .ok _ => .error .notDirectory

/-- Whether a path leads to an entry. -/
def leadsTo (t : Tree) (p : Path) : Bool :=
  (t.open? p).isOk

/-- The answers that a tree gives. -/
def view (t : Tree) : View :=
  ⟨t.read, t.list, t.leadsTo⟩

end Tree

end EnergyMeter.Files
