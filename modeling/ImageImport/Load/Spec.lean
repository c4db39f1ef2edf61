import ImageImport.Language

/-!
Contract: the target that a source is loaded for.
-/

namespace ImageImport

structure LoadSpec where
  language : Language
  compiler : String
  /-- Whether language and compiler were fully resolved; nothing is loaded otherwise. -/
  isComplete : Bool
deriving DecidableEq, Repr

def LoadSpec.text (spec : LoadSpec) : String :=
  spec.language.id ++ "/" ++ spec.compiler ++ if spec.isComplete then "" else " (incomplete)"

end ImageImport
