import ImageImport.ByteSource
import ImageImport.Store.FileTree

/-!
Contract: byte sources from files.

A file is opened whole, unless it has more bytes than a limit; its path is its locator. A directory
has a size too, but cannot be read.
-/

namespace ImageImport

/-- The file at a path as a byte source. -/
def FileTree.openSource (tree : FileTree) (path : String) (limit : UInt64) :
    Except SourceFault ByteSource :=
  match FileTree.readPath path >>= tree.find with
  | .error fault => .error (.device fault)
  | .ok (_, .directory) =>
      if limit.toNat < tree.directorySize then
        .error (.fileTooLarge limit tree.directorySize.toUInt64)
      else .error (.device .noSuchDevice)
  | .ok (place, .file bytes) =>
      if limit.toNat < bytes.length then .error (.fileTooLarge limit bytes.length.toUInt64)
      else
        let path := tree.pathText place
        .ok { ByteSource.ofBytes bytes with path := some path, locator := some (.ofPath path) }

def ByteSource.relocate (source : ByteSource) (locator : Locator) : ByteSource :=
  { source with locator := some locator }

end ImageImport
