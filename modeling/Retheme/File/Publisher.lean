import Retheme.Event
import Retheme.File.Tree

/-!
# Publishing into files

A style block is written into a file of its own in one directory. A block that
cannot be written is reported, and leaves no file behind, though perhaps new
directories.
-/

namespace Retheme.Publisher

def path (directory : FilePath) (block : Text) : FilePath := directory.child (block ++ ".css")

/-- The files after a style block was written, and what is reported. A path that cannot be one is a
fault. -/
def publish (tree : FileTree) (directory : FilePath) (block css : Text) :
    FileTree × Except FileFault Event :=
  let path := path directory block
  match tree.write path css.utf8 with
  | (tree, .ok ()) => (tree, .ok (.published block path.text))
  | (tree, .error .invalidPath) => (tree, .error .invalidPath)
  | (tree, .error _) => (tree, .ok (.notPublished block path.text))

end Retheme.Publisher
