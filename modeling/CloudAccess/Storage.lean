/-
# Files to read

What the program sees of the files around it: a path is missing, is a file with some bytes, or
is there and cannot be read.  A `Storage` answers that for every path.  `Tree.storage` is the
storage of a tree of folders, seen from one of its folders.
-/
import CloudAccess.Text.Utf8

namespace CloudAccess

namespace Storage

/-! ## 1. What a path leads to -/

/-- Why something that is there cannot be read. -/
inductive Problem where
  | isFolder
  | nameTooLong
  /-- There is no permission to open it, or to look at what leads to it. -/
  | denied
  /-- Any other failure of the system that opens or reads it, in its own words. -/
  | failing (reason : Text)
deriving DecidableEq

/-- The wording of a problem. -/
def Problem.message : Problem → Text
  | .isFolder => "Is a directory"
  | .nameTooLong => "File name too long"
  | .denied => "Permission denied"
  | .failing reason => reason

/-- What is found at a path. -/
inductive Found where
  | missing
  | file (content : Bytes)
  | unreadable (problem : Problem)
deriving DecidableEq

end Storage

/-- The files that can be named. -/
abbrev Storage := Text → Storage.Found

namespace Storage

/-! ## 2. Trees of folders -/

/-- A file, or a folder with named entries. -/
inductive Tree where
  | file (content : Bytes)
  | folder (entries : List (Text × Tree))

/-- The number of bytes of a name, if it can be a name: it holds no zero and no surrogate other
than those that stand for single bytes. -/
def byteLength? (t : Text) : Option Nat :=
  t.foldl (fun n? c =>
    match n? with
    | none => none
    | some n =>
      if c.val = 0 then none
      else if c.isSurrogate then if 0xDC80 ≤ c.val ∧ c.val ≤ 0xDCFF then some (n + 1) else none
      else some (n + (Utf8.encodeChar c).length)) (some 0)

/-- The longest name of a file, in bytes. -/
def maxNameLength : Nat := 255

/-- The longest path, in bytes. -/
def maxPathLength : Nat := 4095

/-- The steps of a path: its names and double dots.  Empty steps and single dots lead
nowhere. -/
def steps (path : Text) : List Text :=
  (Text.splitOn '/' path).filter fun s => !s.isEmpty && s ≠ "."

/-- Follow steps from a folder; the folders above it are given, the nearest first. -/
def Tree.follow (above : List Tree) (here : Tree) : List Text → Found
  | [] =>
    match here with
    | .file content => .file content
    | .folder _ => .unreadable .isFolder
  | step :: rest =>
    match here with
    | .file _ => .missing
    | .folder entries =>
      if step = ".." then
        match above with
        | [] => Tree.follow [] here rest
        | parent :: more => Tree.follow more parent rest
      else if maxNameLength < (byteLength? step).getD 0 then .unreadable .nameTooLong
      else
        match entries.lookup step with
        | none => .missing
        | some next => Tree.follow (here :: above) next rest

/-- Go down through named folders, noting the folders on the way; a step that is not there is
passed over. -/
def Tree.descend (above : List Tree) (here : Tree) : List Text → List Tree × Tree
  | [] => (above, here)
  | step :: rest =>
    match here with
    | .file _ => (above, here)
    | .folder entries =>
      match entries.lookup step with
      | none => Tree.descend above here rest
      | some next => Tree.descend (here :: above) next rest

/-- What a path leads to in a tree, seen from the folder reached by the given names. -/
def Tree.storage (root : Tree) (origin : List Text) : Storage := fun path =>
  let names := steps path
  let written := Text.join ['/'] names
  match byteLength? written with
  | none => .missing
  | some length =>
    if maxPathLength < length + (if Text.startsWith path "/" then 1 else 0) then
      .unreadable .nameTooLong
    else if Text.startsWith path "/" then root.follow [] names
    else
      let (above, here) := root.descend [] origin
      here.follow above names

end Storage

end CloudAccess
