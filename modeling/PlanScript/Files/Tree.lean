/-
PlanScript.Files.Tree — folders and files.

A tree is a file with its bytes, or with the reason why it cannot be read, or
a folder with named entries. `Tree.at?` follows a path through it, name by
name: each name must be in a folder, two dots go back to the folder before,
and a path that ends with a slash must end in a folder. What cannot be read
says why.
-/
import PlanScript.Files.Path

namespace PlanScript

/-- Why a file cannot be read. -/
inductive ReadError where
  | notFound
  | notAFolder
  | isAFolder
  | denied
  /-- The bytes are no UTF-8. -/
  | notText
  /-- Any other reason, as the system gives it. -/
  | other (reason : Text)
deriving DecidableEq, Repr

/-- The text of a read error. -/
def ReadError.message : ReadError → Text
  | notFound => "No such file or directory (os error 2)".toList
  | notAFolder => "Not a directory (os error 20)".toList
  | isAFolder => "Is a directory (os error 21)".toList
  | denied => "Permission denied (os error 13)".toList
  | notText => "stream did not contain valid UTF-8".toList
  | other reason => reason

/-- A file or a folder. -/
inductive Tree where
  | file (content : Except ReadError ByteArray)
  | folder (entries : List (Text × Tree))

/-- The text that some bytes spell in UTF-8. -/
def Text.ofBytes? (bytes : ByteArray) : Option Text :=
  (String.fromUTF8? bytes).map String.toList

namespace Tree

/-! ## 1. Reading -/

/-- The text of a file. -/
def read : Tree → Except ReadError Text
  | folder _ => .error .isAFolder
  | file (.error e) => .error e
  | file (.ok bytes) => match Text.ofBytes? bytes with
    | some t => .ok t
    | none => .error .notText

/-- The entry of a name in a folder. -/
def child? (name : Text) : List (Text × Tree) → Option Tree
  | [] => none
  | (n, tree) :: rest => if n = name then some tree else child? name rest

/-! ## 2. Following a path -/

/-- The tree at the end of some pieces of a path, where `above` are the
folders that lead to this one, the nearest first. What lies above the root
is not known and counts as empty. -/
def follow (above : List Tree) (tree : Tree) : List Text → Except ReadError Tree
  | [] => .ok tree
  | name :: rest =>
    match tree with
    | file _ => .error .notAFolder
    | folder entries =>
      if Path.isIdle name then follow above tree rest
      else if name = Path.up then
        match above with
        | [] => follow [] (folder []) rest
        | outer :: above => follow above outer rest
      else match child? name entries with
        | none => .error .notFound
        | some inner => follow (tree :: above) inner rest

/-- The tree that a path leads to. The empty path leads nowhere, and a path
from the root of the file system leaves the tree. -/
def at? (root : Tree) (path : Text) : Except ReadError Tree :=
  match path with
  | [] | '/' :: _ => .error .notFound
  | _ => follow [] root (Path.pieces path)

/-! ## 3. Building -/

/-- The entries with a file added at the end of some names. -/
def insert (bytes : ByteArray) : List Text → List (Text × Tree) → List (Text × Tree)
  | [], entries => entries
  | name :: names, entries =>
    let inner : List (Text × Tree) := match child? name entries with
      | some (folder inner) => inner
      | _ => []
    let tree := if names.isEmpty then file (.ok bytes) else folder (insert bytes names inner)
    if (child? name entries).isSome then
      entries.map fun (n, t) => if n = name then (n, tree) else (n, t)
    else entries ++ [(name, tree)]

/-- The folder that holds some files, given by their paths. -/
def ofFiles (files : List (Text × ByteArray)) : Tree :=
  folder (files.foldl (fun entries (path, bytes) => insert bytes (Path.names path) entries) [])

end Tree

end PlanScript
