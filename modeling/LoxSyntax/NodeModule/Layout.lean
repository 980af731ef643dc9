/-
# Directory layouts

What the command line needs to know of a file system is which paths lead to a directory.  A tree of
directories answers that: a path is walked part by part, every part but the last has to lead to a
directory, and empty parts and single dots stay where they are.  The names in a tree are bytes.
-/
import LoxSyntax.Text.Raw
import LoxSyntax.Text.Split

namespace LoxSyntax.NodeModule

open Text (Raw utf8)

/-- The paths that lead to a directory. -/
structure Layout where
  isDirectory : Raw → Bool

/-- The name of a file or of a directory. -/
abbrev FileName := List UInt8

/-- A file, or a directory with named entries. -/
inductive Entry where
  | file
  | directory (entries : List (FileName × Entry))

namespace Entry

/-- The entry at the end of a way from the root, whose last step stands first. -/
def reached (root : Entry) (way : List (FileName × Entry)) : Entry :=
  (way.head?.map Prod.snd).getD root

/-- The step to the entry that a part of a path names. -/
def step? (entries : List (FileName × Entry)) (part : Raw) : Option (FileName × Entry) :=
  part.bytes?.bind fun name => (entries.lookup name).map (name, ·)

/-- The way that the parts of a path lead on from a given one. -/
def walk? (root : Entry) (way : List (FileName × Entry)) :
    List Raw → Option (List (FileName × Entry))
  | [] => some way
  | part :: parts =>
    match root.reached way with
    | file => none
    | directory entries =>
      if part = [] ∨ part = .ofString "." then walk? root way parts
      else if part = .ofString ".." then walk? root way.tail parts
      else
        match step? entries part with
        | none => none
        | some step => walk? root (step :: way) parts

/-- The parts of a path between its slashes. -/
def parts (path : Raw) : List Raw := Text.pieces (· == .char '/') path

/-- The way that a path leads from the root.  The empty path leads nowhere. -/
def way? (root : Entry) (path : Raw) : Option (List (FileName × Entry)) :=
  if path = [] then none else root.walk? [] (parts path)

/-- The layout of a tree. -/
def layout (root : Entry) : Layout where
  isDirectory path :=
    match (root.way? path).map root.reached with
    | some (directory _) => true
    | _ => false

/-- The names on a way from the root. -/
def names (way : List (FileName × Entry)) : List FileName := (way.map Prod.fst).reverse

/-- The names on the shortest way to a file in a directory that a path leads to. -/
def namesTo? (root : Entry) (path : Raw) : Option (List FileName) :=
  match (parts path).reverse with
  | [] => none
  | last :: before => do
    let way ← root.walk? [] before.reverse
    let name ← last.bytes?
    return names way ++ [name]

end Entry

/-- Two dots lead back, but only from a directory. -/
example :
    let root : Entry := .directory [(utf8 "a", .directory []), (utf8 "f", .file)]
    root.layout.isDirectory (.ofString "a/../a//.") = true ∧
      root.layout.isDirectory (.ofString "f/..") = false := by
  decide +kernel

end LoxSyntax.NodeModule
