import ConfigScope.Ty.Equality

/-!
# Declarations

What a schema is made of, before it is checked: classes, functions that may
be called without a receiver, objects that the environment provides, and the
name of the class whose members a document starts from.
-/

namespace ConfigScope

structure TopLevelFunction where
  package : String
  name : String
  parameters : List Parameter
  semantics : Semantics
  deriving DecidableEq

structure External where
  name : String
  type : TypeRef
  deriving DecidableEq

structure Declarations where
  topLevel : QualifiedName
  classes : List ClassDecl
  functions : List TopLevelFunction
  externals : List External
  deriving DecidableEq

end ConfigScope
