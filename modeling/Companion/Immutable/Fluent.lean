import Companion.Immutable.Entity

/-!
# Fluent changes of an entity

Next to an entity stands a class of extension methods. Each changes one property and gives a
builder, to which the next change is applied. Where optional values are supported, the same
methods apply to an optional entity.
-/

namespace Companion.Entity

variable (e : Entity)

/-- An extension method that changes a property: its documentation and its code. `receiver` is
the declaration of the receiver, `source` the builder made from it. -/
def withMethod (p : BuilderProperty) (doc : List Piece) (receiver source : String)
    (argument argumentName : String) : List Piece :=
  doc ++ e.pass.pureMark ++
  [.braces ("public static " ++ e.builder ++ " With" ++ p.name ++ e.definition.genericArguments ++
      "(this " ++ receiver ++ ", " ++ argument ++ " " ++ argumentName ++ ")" ++
      e.definition.constraints)
    [.line ("return " ++ source ++ ".With" ++ p.name ++ "(" ++ argumentName ++ ");")]]

/-- The type of a function that projects the value of a property. -/
def selectorType (p : BuilderProperty) : String := "Func<" ++ p.type ++ ", " ++ p.type ++ ">"

/-- The extension methods that change a property of an entity. -/
def entityWiths (p : BuilderProperty) : List (List Piece) :=
  let x := e.nameForXml
  let receiver := e.name ++ " entity"
  let source := "new " ++ e.builder ++ "(entity)"
  [e.withMethod p
      (Piece.summary ["Set property " ++ p.name ++ " in a fluent declaration."] ++
      Piece.remarks
        ["The return value is a builder which can be casted implicitly to " ++ x ++
            " or used to make more changes.",
          notThreadSafe "THIS METHOD"] ++
      Piece.element "example"
        [x ++ " original = " ++ x ++ ".Default; // first immutable instance",
          p.type ++ " new" ++ p.name ++ "Value = [...];",
          x ++ " modified = original.With" ++ p.name ++ "(new" ++ p.name ++
            "Value); // create a new modified immutable instance"])
      receiver source p.type "value",
    e.withMethod p
      (Piece.summary
        ["Set property " ++ p.name ++
          " in a fluent declaration by projecting the previous value."] ++
      Piece.remarks ["The selector is called immediately."])
      receiver source (selectorType p) "valueSelector"]

/-- The extension methods that change a property of an optional entity. -/
def optionWiths (p : BuilderProperty) : List (List Piece) :=
  let x := e.nameForXml
  let receiver := e.option ++ " optionEntity"
  let source := e.builder ++ ".FromOption(optionEntity)"
  [e.withMethod p
      (Piece.summary ["Set property " ++ p.name ++ " on an optional " ++ x ++ "."] ++
      Piece.remarks
        ["When the entity is Option.None&lt;" ++ x ++ "&gt;, the result is the same as " ++ x ++
          ".Default.With" ++ p.name ++ "(value)."])
      receiver source p.type "value",
    e.withMethod p
      (Piece.summary
        ["Set property " ++ p.name ++ " on an optional " ++ x ++
          " by projecting the previous value."])
      receiver source (selectorType p) "valueSelector"]

/-- The class of extension methods; it is empty for an abstract entity. -/
def extensionClass : List Piece :=
  [.braces (e.definition.accessibility.modifiers ++ " static partial class " ++
      e.definition.name ++ "Extensions")
    (if e.properties.isEmpty || e.isAbstract then []
    else
      [.region (".WithXXX() methods on " ++ e.name)
        (Piece.separated (e.properties.flatMap fun p =>
          e.entityWiths p ++ if e.hasOptionCode then e.optionWiths p else []))])]

end Companion.Entity
