import TradeNotes.Session.Source

namespace TradeNotes.Cli

/-- What can have a name in a folder: a file, or a folder with what it holds. -/
inductive Entry
  | file (bytes : List UInt8)
  | folder (entries : List (Text × Entry))

/-- What a folder holds, by its names. -/
abbrev Folder := List (Text × Entry)

namespace Folder

/-- The reason that there is nothing at a path. -/
def missing : Text := "No such file or directory (os error 2)".toList

/-- The reason that a path goes on after a file. -/
def notFolder : Text := "Not a directory (os error 20)".toList

/-- The reason that a file may not be read. -/
def notPermitted : Text := "Permission denied (os error 13)".toList

/-- The reason that the lines of a folder cannot be read. -/
def isFolder : Text := "Is a directory (os error 21)".toList

/-- The reason that a path, or a name in it, has too many bytes. -/
def nameTooLong : Text := "File name too long (os error 36)".toList

/-- The greatest number of bytes of a name. -/
def maxName : Nat := 255

/-- The greatest number of bytes of a path. -/
def maxPath : Nat := 4095

/-- The root of all folders, as far as it is the same everywhere: its own folders, and
    two files for devices, one without bytes and one that gives the standard input. -/
def root (input : List UInt8) : Folder :=
  ["bin", "boot", "etc", "home", "lib", "media", "mnt", "opt", "proc", "root", "run", "sbin",
    "srv", "sys", "tmp", "usr", "var"].map (fun name => (name.toList, .folder [])) ++
  [("dev".toList, .folder [("null".toList, .file []), ("stdin".toList, .file input)])]

/-- Follows the names of a path from a folder that lies in others, the innermost first. An
    empty name and a single dot stay where they are, and two dots lead out. The outermost
    folder has none around it, and two dots stay there too. -/
def follow (outer : List Folder) (here : Folder) : List Text → Except Text Entry
  | [] => .ok (.folder here)
  | name :: rest =>
    if name.isEmpty || name = ['.'] then follow outer here rest
    else if name = ['.', '.'] then
      match outer with
      | [] => follow [] here rest
      | around :: outer => follow outer around rest
    else if maxName < name.utf8.length then .error nameTooLong
    else
      match here.lookup name with
      | none => .error missing
      | some (.folder inner) => follow (here :: outer) inner rest
      | some (.file bytes) => if rest.isEmpty then .ok (.file bytes) else .error notFolder

/-- What a path leads to, from the root when it begins with a slash, else from a folder
    around which there is one of which nothing is known. -/
def find (working root : Folder) (path : Text) : Except Text Entry :=
  if path.isEmpty then .error missing
  else if maxPath < path.utf8.length then .error nameTooLong
  else
    let names := path.splitOnP (· == '/')
    if path.head? = some '/' then follow [] root names else follow [[]] working names

/-- Opens what a path leads to as a source of lines. A folder can be opened, but
    reading it fails. -/
def open? (working root : Folder) (path : Text) : Except Text Source :=
  (working.find root path).map fun
    | .file bytes => Source.ofBytes bytes
    | .folder _ => Source.failingAfter [] isFolder

end Folder

end TradeNotes.Cli
