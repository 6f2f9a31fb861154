namespace Tracepoint

namespace Path

/-- The parts between slashes, without empty ones and single dots. -/
def parts (path : String) : List String :=
  ((path.splitOn "/").filter fun part => part != "" && part != ".")

/-- How a path begins that does not start from the working directory. Exactly two slashes are kept
apart from one. -/
def root (path : String) : String :=
  if path.startsWith "//" && !path.startsWith "///" then "//"
  else if path.startsWith "/" then "/" else ""

/-- The shortest way of writing a path, without looking at the files. -/
def normalize (path : String) : String :=
  let text := root path ++ "/".intercalate (parts path)
  if text = "" then "." else text

def join (directory name : String) : String :=
  if directory.endsWith "/" then directory ++ name else directory ++ "/" ++ name

end Path

/-- What stands at a path. -/
inductive Entry
  | missing
  | directory
  | file (bytes : List UInt8)
  /-- The path, or a part that was looked for in a directory, is longer than a name can be. -/
  | tooLong
  deriving DecidableEq

/-- Files and empty directories below one directory, by the parts of their paths. -/
abbrev FileTree := List (List String × Entry)

namespace FileTree

/-- The most bytes that a part of a path can have. -/
def partLimit : Nat := 255

/-- The most bytes that a path can have. -/
def pathLimit : Nat := 4095

def find (tree : FileTree) (parts : List String) : Entry :=
  match tree.find? (·.1 = parts) with
  | some (_, entry) => entry
  | none => if parts.isEmpty || tree.any (parts.isPrefixOf ·.1) then .directory else .missing

/-- Above a working directory nothing but the way further up is found. -/
def walkUp (rest : List String) : Entry :=
  match rest.dropWhile (· = "..") with
  | [] => .directory
  | part :: _ => if partLimit < part.utf8ByteSize then .tooLong else .missing

/-- Goes from a directory part by part; a part can only be looked for in a directory. At the top
of the system's tree the way up leads nowhere else. -/
def walk (tree : FileTree) (isSystem : Bool) (here : List String) : List String → Entry
  | [] => tree.find here
  | part :: rest =>
    if tree.find here ≠ .directory then .missing
    else if part = ".." then
      if here.isEmpty && !isSystem then walkUp rest else walk tree isSystem here.dropLast rest
    else if partLimit < part.utf8ByteSize then .tooLong
    else walk tree isSystem (here ++ [part]) rest

/-- The part of the system's tree that is the same everywhere. -/
def system : FileTree :=
  (["dev", "null"], .file []) ::
    ["bin", "boot", "etc", "home", "lib", "media", "mnt", "opt", "proc", "root", "run", "sbin",
      "srv", "sys", "tmp", "usr", "var"].map fun name => ([name], .directory)

/-- A path that ends in a slash can only be a directory. -/
def lookup (tree : FileTree) (path : String) : Entry :=
  if path = "" || path.toList.contains '\x00' then .missing
  else if pathLimit < path.utf8ByteSize then .tooLong
  else
    let parts := Path.parts path
    let entry :=
      if path.startsWith "/" then system.walk true [] parts else tree.walk false [] parts
    if path.endsWith "/" || path.endsWith "/." then
      match entry with
      | .file _ => .missing
      | entry => entry
    else entry

end FileTree

end Tracepoint
