import LayoutGuard.Ordered.Map
import LayoutGuard.Files.Path

/-!
# File trees

The files and directories of a disk, by the names that lead to them from the root, and the working
directory where relative paths start. A path is followed part by part, and every part asks for a
directory where it stands: so a path that goes through a file leads nowhere, and so does one that
leaves a missing directory again. There are no links, and every name can be read and written.

- `locate?`: where a path leads.
- `createDirectories`: make a directory and all that it needs.
- `replaceFile?`: put a file in place of another one, or where nothing is.
- `write`: the same, with the directories around the file.
-/

namespace LayoutGuard

/-- What stands at a place of a file tree. -/
inductive Entry where
  | file (content : ByteArray)
  | directory
  deriving Inhabited

instance : DecidableEq Entry
  | .directory, .directory => isTrue rfl
  | .directory, .file _ => isFalse nofun
  | .file _, .directory => isFalse nofun
  | .file a, .file b =>
    match ByteArray.instDecidableEq a b with
    | isTrue h => isTrue (congrArg Entry.file h)
    | isFalse h => isFalse fun e => h (Entry.file.inj e)

/-- A place in a file tree: the names that lead there from the root. -/
abbrev Location := List String

/-- The files and directories of a disk. -/
structure FileTree where
  /-- The working directory. -/
  here : Location
  /-- All files and directories except for the root. -/
  entries : OrderedMap Location Entry
  deriving Inhabited

namespace FileTree

/-- A disk with nothing on it but the working directory and the directories around it. -/
def empty (here : Location) : FileTree where
  here := here
  entries := .ofList ((List.range here.length).map fun n => (here.take (n + 1), .directory))

/-- The path of the working directory. -/
def workingDirectory (t : FileTree) : Path := ⟨"/" ++ "/".intercalate t.here⟩

/-- What stands at a location. The root is a directory. -/
def get? (t : FileTree) (place : Location) : Option Entry :=
  if place = [] then some .directory else t.entries.get? place

/-- Whether a location is a directory. -/
def isDirectoryAt (t : FileTree) (place : Location) : Bool := t.get? place == some .directory

/-- Where a path starts. -/
def origin (t : FileTree) (p : Path) : Location := if p.isAbsolute then [] else t.here

/-- Follow one part of a path from a location, which has to be a directory. -/
def follow? (t : FileTree) (place : Location) (part : String) : Option Location :=
  if !t.isDirectoryAt place then none
  else if Path.isIdle part then some place
  else if part = ".." then some place.dropLast
  else if fitsFileName part then some (place ++ [part])
  else none

/-- Where a path leads. Nothing needs to be there, but all on the way has to be a directory. -/
def locate? (t : FileTree) (p : Path) : Option Location :=
  if p.isSearchable then p.parts.foldlM t.follow? (t.origin p) else none

/-- What stands at the end of a path. -/
def find? (t : FileTree) (p : Path) : Option Entry := (t.locate? p).bind t.get?

/-- Whether a path leads to a directory. -/
def isDirectory (t : FileTree) (p : Path) : Bool := t.find? p == some .directory

/-- The content of the file to which a path leads. -/
def read? (t : FileTree) (p : Path) : Option ByteArray :=
  match t.find? p with
  | some (.file content) => some content
  | _ => none

/-- Whether a path leads to a file. -/
def isFile (t : FileTree) (p : Path) : Bool := (t.read? p).isSome

/-- The names of the files of a directory, not of those further down, in ascending order. -/
def fileNames (t : FileTree) (place : Location) : List String :=
  t.entries.toList.filterMap fun e =>
    match e.1.getLast?, e.2 with
    | some name, .file _ => if e.1.dropLast = place then some name else none
    | _, _ => none

/-- The tree with an entry at a location. -/
def set (t : FileTree) (place : Location) (entry : Entry) : FileTree :=
  { t with entries := t.entries.insert place entry }

/-- An entry changes what stands at its own location and at no other. -/
theorem get?_set (t : FileTree) {place : Location} (entry : Entry) (other : Location)
    (h : place ≠ []) :
    (t.set place entry).get? other = if other = place then some entry else t.get? other := by
  unfold get? set
  by_cases ho : other = place
  · subst ho
    simp [h]
  · have hc : ¬ compare other place = .eq := fun e => ho (Std.LawfulEqOrd.eq_of_compare e)
    simp [ho, hc, OrderedMap.get?_insert]

/-- Whether what is left of a path stays where it is and has a point in it. -/
def restsOnPoint (parts : List String) : Bool := parts.all Path.isIdle && parts.contains "."

/-- Go along the parts of a path from a location, make the directories that are missing, and say
whether the end is there. What was made stays if a later part leads nowhere. -/
def createAlong (t : FileTree) (place : Location) : List String → FileTree × Bool
  | [] => (t, true)
  | part :: rest =>
    match t.follow? place part with
    | none => (t, false)
    | some next =>
      match t.get? next with
      | some .directory => createAlong t next rest
      | some (.file _) => (t, false)
      | none =>
        -- `a/.` asks for an entry of `a` and not for `a`, so it does not bring `a` about.
        if restsOnPoint rest then (t, false)
        else createAlong (t.set next .directory) next rest

/-- Make the directory to which a path leads and those on the way to it, and say whether it is
there in the end. The empty path is the working directory, which is there. -/
def createDirectories (t : FileTree) (p : Path) : FileTree × Bool :=
  if p.text = "" then (t, true)
  else if p.isSearchable then t.createAlong (t.origin p) p.parts
  else (t, false)

/-- Put a file where a path leads, unless a directory is there. -/
def replaceFile? (t : FileTree) (p : Path) (content : ByteArray) : Option FileTree :=
  match t.locate? p with
  | none => none
  | some location =>
    if t.isDirectoryAt location then none else some (t.set location (.file content))

/-- Put a file where a path leads and make the directories around it. If the file cannot be put
there, the directories stay. -/
def write (t : FileTree) (p : Path) (content : ByteArray) : FileTree × Bool :=
  let (t, _) := t.createDirectories p.parent
  match t.replaceFile? p content with
  | some t => (t, true)
  | none => (t, false)

/-- The tree without what a path leads to and all below it. -/
def remove (t : FileTree) (p : Path) : FileTree :=
  match t.locate? p with
  | none => t
  | some location =>
    { t with entries := ⟨t.entries.toList.filter fun e => !location.isPrefixOf e.1,
        t.entries.ascending.filter _⟩ }

/-- All that is in the working directory, further down too, as paths from there, with a slash
behind directories. -/
def contents (t : FileTree) : List String :=
  t.entries.toList.filterMap fun e =>
    if t.here.isPrefixOf e.1 ∧ t.here.length < e.1.length then
      let path := "/".intercalate (e.1.drop t.here.length)
      match e.2 with
      | .directory => some (path ++ "/")
      | .file _ => some path
    else none

end FileTree

end LayoutGuard
