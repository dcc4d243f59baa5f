import EnergyMeter.Files.Tree

/-!
# Changes to a directory tree

A change names a path and what happens there. Directories missing on the way to
a new entry are made. Modes bind a change as they bind a look-up: making and
removing entries needs write permission in their directory, and replacing a
file's content needs it on the file. The modes of what is removed do not matter,
since the owner may change them.
-/

namespace EnergyMeter.Files

/-- A change to a tree. -/
inductive Edit where
  /-- Make a file or replace its content. -/
  | write (path : Path) (content : ByteArray)
  /-- Make a directory and those on the way to it. -/
  | makeDirectory (path : Path)
  /-- Make a symbolic link. -/
  | link (path : Path) (target : Path)
  /-- Set the mode of what the path leads to. -/
  | setMode (path : Path) (mode : Mode)
  /-- Remove an entry and all below it, following no link. -/
  | remove (path : Path)

namespace Tree

/-- Makes an entry where none is, if its directory may be changed. -/
def make (t : Tree) (l : Location) (e : Entry) : Except Fault Tree :=
  match t.directory? l.dropLast with
  | some mode =>
    if mode.write && mode.search then .ok (t.put l e) else .error .permissionDenied
  | none => .error .notDirectory

/-- Whether the steps lead to a directory, links followed. -/
def leadsToDirectory (t : Tree) (steps : List Step) : Bool :=
  match t.walk true linkLimit [] steps with
  | .ok (.present l) => (t.directory? l).isSome
  | _ => false

/-- Makes the directory at the end of the steps, those before it being there.
Something else that stands there is in the way: at the `last` step as an entry
that exists, before it as no directory. -/
def makeOne (t : Tree) (last : Bool) (steps : List Step) : Except Fault Tree :=
  if t.leadsToDirectory steps then .ok t
  else
    match t.walk false linkLimit [] steps with
    | .error fault => .error fault
    | .ok (.present _) => .error (if last then .alreadyExists else .notDirectory)
    | .ok (.absent l) => t.make l (.directory .newDirectory)

/-- Makes every directory along the steps, `before` being the steps done. -/
def makeAlong (t : Tree) (before : List Step) : List Step → Except Fault Tree
  | [] => .ok t
  | step :: rest =>
    match t.makeOne rest.isEmpty (before ++ [step]) with
    | .error fault => .error fault
    | .ok t' => makeAlong t' (before ++ [step]) rest

/-- The steps to the directory that an entry is made in. -/
def parentSteps (p : Path) : List Step :=
  (p.steps.filter (· ≠ .directory)).dropLast

end Tree

/-- Puts content into the file that a path leads to, made if it is not there. -/
def Edit.applyWrite (t : Tree) (p : Path) (content : ByteArray) : Except Fault Tree :=
  match t.locate true p with
  | .error fault => .error fault
  | .ok (.absent l) => t.make l (.file .newFile content)
  | .ok (.present l) =>
    match t.find? l with
    | some (.file mode _) =>
      if mode.write then .ok (t.put l (.file mode content)) else .error .permissionDenied
    | _ => .error .isDirectory

/-- Makes a link where nothing is. A link has to lead somewhere by name. -/
def Edit.applyLink (t : Tree) (p target : Path) : Except Fault Tree :=
  if target.text = "" then .error .notFound
  else
    match t.locate false p with
    | .error fault => .error fault
    | .ok (.absent l) => t.make l (.link target)
    | .ok (.present _) => .error .alreadyExists

/-- Sets the mode of the entry that a path leads to. -/
def Edit.applyMode (t : Tree) (p : Path) (mode : Mode) : Except Fault Tree :=
  match t.open? p with
  | .error fault => .error fault
  | .ok (l, .file _ content) => .ok (t.put l (.file mode content))
  | .ok (l, _) => .ok (t.put l (.directory mode))

/-- Removes what stands at a path. Nothing there is no failure. -/
def Edit.applyRemove (t : Tree) (p : Path) : Except Fault Tree :=
  match t.locate false p with
  | .ok (.present l) =>
    match t.directory? l.dropLast with
    | some mode =>
      if mode.write && mode.search then .ok (t.cut l) else .error .permissionDenied
    | none => .error .notDirectory
  | _ => .ok t

/-- Carries a change out. -/
def Edit.apply (t : Tree) : Edit → Except Fault Tree
  | .write p content =>
    match t.makeAlong [] (Tree.parentSteps p) with
    | .error fault => .error fault
    | .ok t' => Edit.applyWrite t' p content
  | .makeDirectory p => t.makeAlong [] (p.steps.filter (· ≠ .directory))
  | .link p target =>
    match t.makeAlong [] (Tree.parentSteps p) with
    | .error fault => .error fault
    | .ok t' => Edit.applyLink t' p target
  | .setMode p mode => Edit.applyMode t p mode
  | .remove p => Edit.applyRemove t p

/-- Carries changes out in order, up to the first that fails. -/
def Edit.applyAll (t : Tree) : List Edit → Except Fault Tree
  | [] => .ok t
  | e :: rest =>
    match e.apply t with
    | .error fault => .error fault
    | .ok t' => applyAll t' rest

end EnergyMeter.Files
