import EnergyMeter.Text.Quoted
import EnergyMeter.Text.Split

/-!
# Paths

A path keeps the text it was given, since messages show that text. Looking a
file up reads the text as steps between slashes: an empty or a single-dot part
stays where it is, two dots go up, and a slash at the end asks for a directory.
-/

namespace EnergyMeter.Files

/-- The text that names a file. -/
structure Path where
  /-- The text as given, with whatever slashes it has. -/
  text : String
  deriving DecidableEq, Repr, Inhabited

/-- One step of looking a file up. -/
inductive Step where
  /-- Stay in the directory. -/
  | here
  /-- Go to the directory above. -/
  | up
  /-- Go to the entry of that name. -/
  | entry (name : String)
  /-- Stay, if this is a directory. -/
  | directory
  deriving DecidableEq, Repr

namespace Path

/-- The step of a part between slashes; an empty part takes none. -/
def partStep? (part : List Char) : Option Step :=
  if part = [] then none
  else if part = ['.'] then some .here
  else if part = ['.', '.'] then some .up
  else some (.entry (String.ofList part))

/-- Whether the look-up starts at the root directory. -/
def isAbsolute (p : Path) : Bool :=
  p.text.toList.head? == some '/'

/-- Whether the text ends with a slash. -/
def endsWithSlash (p : Path) : Bool :=
  p.text.toList.getLast? == some '/'

/-- The steps of looking a path up. -/
def steps (p : Path) : List Step :=
  let named := (Text.splitAt '/' p.text.toList).filterMap partStep?
  if p.endsWithSlash && !named.isEmpty then named ++ [.directory] else named

/-- The path of an entry of a directory, `name` being no path itself. One slash
stands between the two, and none is added to an empty path. -/
def join (p : Path) (name : String) : Path :=
  if p.text = "" || p.endsWithSlash then ⟨p.text ++ name⟩ else ⟨p.text ++ "/" ++ name⟩

/-- The text between double quotes. -/
def quoted (p : Path) : String :=
  Text.quoted p.text

end Path

/-- The order of names by their bytes, which is the order by code points. -/
def nameLe (a b : String) : Bool :=
  !(decide (b < a))

end EnergyMeter.Files
