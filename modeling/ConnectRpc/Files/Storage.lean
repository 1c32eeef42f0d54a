import ConnectRpc.Bytes
import ConnectRpc.Text.SlashPath

/-!
# Storage

What a run needs of a file system: reading a file, and writing one with the folders above it. A run
is written once over any storage, and then holds for the tree of `ConnectRpc.Files.Tree` and for a
disk alike.
-/

namespace ConnectRpc

/-- Why a path cannot be read or written. -/
inductive StorageFault where
  /-- Nothing is there. -/
  | missing
  /-- A file stands where a folder is needed on the way. -/
  | notAFolder
  /-- A folder stands where a file is needed. -/
  | isAFolder
  /-- A file stands where a folder is to be made. -/
  | occupied
  /-- The path holds the character that ends paths. -/
  | unusablePath
  /-- The file system does not allow it: a name is too long, say, or there is no permission. -/
  | refused
  deriving DecidableEq, Repr

/-- Reading and writing of files. -/
structure Storage (m : Type → Type) where
  read : SlashPath → m (Except StorageFault Bytes)
  /-- Writes a file, after making the folders above it that are missing. -/
  write : SlashPath → Bytes → m (Except StorageFault Unit)

namespace Storage

variable {m : Type → Type} [Monad m]

/-- Writes files one after the other, up to the first that cannot be written. -/
def writeAll (storage : Storage m) : List (SlashPath × Bytes) → m (Except StorageFault Unit)
  | [] => pure (.ok ())
  | (path, bytes) :: rest => do
    match ← storage.write path bytes with
    | .ok () => storage.writeAll rest
    | .error f => pure (.error f)

end Storage

end ConnectRpc
