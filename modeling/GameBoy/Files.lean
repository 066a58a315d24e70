import GameBoy.Bus.Cartridge

/-!
# Files

Images are read from named files. A `Directory` is a working directory that holds nothing but the
files listed for it; its store follows a path part by part and tells the first thing that is wrong
with it, as an operating system does.
-/

namespace GameBoy

/-- Why a file cannot be read. -/
inductive ReadError where
  | notFound | permissionDenied | notDirectory | isDirectory | nameTooLong | zeroInName
  deriving DecidableEq, Repr

/-- The text of the operating system for a failure to read. -/
def ReadError.message : ReadError → String
  | notFound => "No such file or directory (os error 2)"
  | permissionDenied => "Permission denied (os error 13)"
  | notDirectory => "Not a directory (os error 20)"
  | isDirectory => "Is a directory (os error 21)"
  | nameTooLong => "File name too long (os error 36)"
  | zeroInName => "file name contained an unexpected NUL byte"

/-- The files that can be read, by path. -/
abbrev FileStore := String → Except ReadError Image

/-- The files of a working directory, by name. -/
abbrev Directory := List (String × Image)

namespace Directory

/-- Where a path has led so far: to the directory itself, to another one, of which nothing can be
read, or to a file. -/
inductive Place where
  | here
  | elsewhere
  | file (image : Image)
  deriving DecidableEq, Repr

/-- The greatest number of bytes in a name. -/
def maxName : Nat := 255

/-- The greatest number of bytes in a path. -/
def maxPath : Nat := 4095

/-- Follows one part of a path. An empty part, as between two slashes, leads nowhere. -/
def follow (files : Directory) (place : Place) (part : String) : Except ReadError Place :=
  match place with
  | .file _ => .error .notDirectory
  | place =>
    if part = "" ∨ part = "." then .ok place
    else if part = ".." then .ok .elsewhere
    else if part.utf8ByteSize > maxName then .error .nameTooLong
    else match place, files.find? (·.1 == part) with
      | .here, some (_, image) => .ok (.file image)
      | _, _ => .error .notFound

/-- Reads a file by path. -/
def read (files : Directory) : FileStore := fun path =>
  if path.contains '\x00' then .error .zeroInName
  else if path = "" then .error .notFound
  else if path.utf8ByteSize > maxPath then .error .nameTooLong
  else
    let start := if path.startsWith "/" then Place.elsewhere else .here
    match (path.splitOn "/").foldlM (follow files) start with
    | .error e => .error e
    | .ok (.file image) => .ok image
    | .ok _ => .error .isDirectory

end Directory

end GameBoy
