/-!
# Files by path

What the file system says about a path: that there is nothing and why, that it is a directory, or
that it is a file with its content and its path without detours. `FileTree` answers for a set of
files below one directory, which is also the current one.
-/

namespace PugScript

inductive PathEntry where
  /-- Nothing, with the system's message. -/
  | absent (message : String)
  | directory
  /-- A file, by its absolute path without detours. -/
  | file (canonicalPath : String) (content : ByteArray)

abbrev FileSystem := String → PathEntry

namespace FileSystem

def noSuchFile : String := "No such file or directory (os error 2)"

def notDirectory : String := "Not a directory (os error 20)"

def nameTooLong : String := "File name too long (os error 36)"

def zeroInName : String := "file name contained an unexpected NUL byte"

def isDirectory : String := "Is a directory (os error 21)"

def notUtf8 : String := "stream did not contain valid UTF-8"

/-- The file system without anything. -/
def nothing : FileSystem := fun _ => .absent noSuchFile

def readText (files : FileSystem) (path : String) : Except String String :=
  match files path with
  | .absent message => .error message
  | .directory => .error isDirectory
  | .file _ content =>
    match String.fromUTF8? content with
    | some text => .ok text
    | none => .error notUtf8

end FileSystem

structure FileTree where
  /-- The absolute path of the directory. -/
  root : String
  directories : List (List String) := []
  files : List (List String × ByteArray) := []

namespace FileTree

def maxPathSize : Nat := 4095

def maxPartSize : Nat := 255

def splitPath (path : String) : List String :=
  path.splitOn "/"

/-- The parts of a path that count. -/
def properParts (path : String) : List String :=
  (splitPath path).filter fun part => part ≠ "" ∧ part ≠ "."

def addDirectory (tree : FileTree) (path : String) : FileTree :=
  { tree with directories := properParts path :: tree.directories }

def addFile (tree : FileTree) (path : String) (content : ByteArray) : FileTree :=
  { tree with files := (properParts path, content) :: tree.files }

def hasDirectory (tree : FileTree) (parts : List String) : Bool :=
  parts.isEmpty || tree.directories.any parts.isPrefixOf ||
    tree.files.any fun (file, _) => parts.length < file.length && parts.isPrefixOf file

/-- Where a walk along a path has come to. -/
inductive Place where
  /-- Below the root, by the parts from the root on. -/
  | inside (parts : List String)
  /-- Some directory above the root. -/
  | above
  | failed (message : String)

def step (tree : FileTree) (place : Place) (part : String) : Place :=
  match place with
  | .failed message => .failed message
  | .above =>
    if part = "" ∨ part = "." ∨ part = ".." then .above else .failed FileSystem.noSuchFile
  | .inside parts =>
    if !tree.hasDirectory parts then .failed FileSystem.notDirectory
    else if part = "" ∨ part = "." then .inside parts
    else if part = ".." then
      if parts.isEmpty then .above else .inside parts.dropLast
    else if maxPartSize < part.utf8ByteSize then .failed FileSystem.nameTooLong
    else
      let next := parts ++ [part]
      if tree.hasDirectory next || tree.files.any (fun (file, _) => file == next) then
        .inside next
      else .failed FileSystem.noSuchFile

/-- Walks along a path from the root, or from above it if the path is absolute. -/
def walk (tree : FileTree) (path : String) : Place :=
  if path.contains (Char.ofNat 0) then .failed FileSystem.zeroInName
  else if path = "" then .failed FileSystem.noSuchFile
  else if maxPathSize < path.utf8ByteSize then .failed FileSystem.nameTooLong
  else
    let start : Place := if path.startsWith "/" then .above else .inside []
    (splitPath path).foldl tree.step start

/-- What a path leads to. -/
def toFileSystem (tree : FileTree) : FileSystem := fun path =>
  match tree.walk path with
  | .failed message => .absent message
  | .above => .directory
  | .inside parts =>
    match tree.files.find? fun (file, _) => file == parts with
    | some (_, content) => .file (String.intercalate "/" (tree.root :: parts)) content
    | none => .directory

end FileTree

end PugScript
