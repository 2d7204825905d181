import Companion.Model.Spelling
import Companion.Model.TypeDef

/-!
# Names of a declared type

The texts by which emitted code, messages and output files refer to a declared type. The file
name of a generic type carries the names of its parameters, so `Box` and `Box<T>` go to
different files.
-/

namespace Companion

/-- The constraints of one parameter, as a `where` clause lists them. -/
def TypeParameter.clauses (p : TypeParameter) : List String :=
  (if p.isReferenceType then ["class"] else []) ++
    (if p.isValueType then ["struct"] else []) ++
    p.constraints.map TypeRef.display ++
    (if p.hasConstructor && !p.isValueType then ["new()"] else [])

/-- A `where` clause for each constrained parameter, with a blank before each. -/
def constraintsClause (params : List TypeParameter) : String :=
  Text.join "" ((params.filter (·.isConstrained)).map fun p =>
    " where " ++ p.name ++ " : " ++ Text.join ", " p.clauses)

namespace TypeDef

/-- The names of the type parameters. -/
def parameterNames (d : TypeDef) : List String := d.typeParameters.map (·.name)

/-- `<T1, T2>`; nothing for a type without parameters. -/
def genericArguments (d : TypeDef) : String :=
  if d.typeParameters.isEmpty then "" else "<" ++ Text.join ", " d.parameterNames ++ ">"

/-- `MyType<T1, T2>` -/
def nameWithGenerics (d : TypeDef) : String := d.name ++ d.genericArguments

/-- `MyType&lt;T1, T2&gt;`, for documentation comments. -/
def nameForXml (d : TypeDef) : String :=
  if d.typeParameters.isEmpty then d.name
  else d.name ++ "&lt;" ++ Text.join ", " d.parameterNames ++ "&gt;"

/-- `MyType<,>` -/
def openName (d : TypeDef) : String :=
  if d.typeParameters.isEmpty then d.name
  else d.name ++ "<" ++ Text.replicate (d.typeParameters.length - 1) ',' ++ ">"

/-- `MyType_T1_T2` -/
def fileSafeName (d : TypeDef) : String :=
  if d.typeParameters.isEmpty then d.name else d.name ++ "_" ++ Text.join "_" d.parameterNames

/-- `My/Namespace/MyType_T1_T2`: a directory for each non-empty segment of the namespace. -/
def filePath (d : TypeDef) : String :=
  Text.join "/" ((Text.split '.' d.namespace).filter (!·.isEmpty) ++ [d.fileSafeName])

/-- ` where T1 : class, global::IFoo` for every constrained parameter. -/
def constraints (d : TypeDef) : String := constraintsClause d.typeParameters

/-- `My.Namespace.MyType<T1, T2>`, which names the type in messages. -/
def qualifiedName (d : TypeDef) : String :=
  (if d.namespace.isEmpty then "" else d.namespace ++ ".") ++ d.nameWithGenerics

/-- `global::My.Namespace.MyType<T1, T2>` -/
def globalName (d : TypeDef) : String := "global::" ++ d.qualifiedName

end TypeDef

end Companion
