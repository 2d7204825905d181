import Companion.Immutable.Entity

/-!
# The document converter of an entity

Where the library for it is part of the compilation, an entity has a converter that reads and
writes it in documents by way of its builder.
-/

namespace Companion.Entity

variable (e : Entity)

/-- The converter class. -/
def jsonConverter : List Piece :=
  let simple := e.definition.name
  let library := "global::Newtonsoft.Json."
  [.braces ("public sealed class " ++ simple ++ "BuilderJsonConverterTo" ++ simple ++
      e.definition.genericArguments ++ " : " ++ library ++ "JsonConverter" ++
      e.definition.constraints)
    [.braces ("public override void WriteJson(" ++ library ++ "JsonWriter writer, object value, " ++
          library ++ "JsonSerializer serializer)")
        [.line ("var v = (" ++ e.builder ++ ")(" ++ e.name ++ ")value;"),
          .line "serializer.Serialize(writer, v);"],
      .blank,
      .braces ("public override object ReadJson(" ++ library ++
          "JsonReader reader, Type objectType, object existingValue, " ++ library ++
          "JsonSerializer serializer)")
        [.line ("var o = serializer.Deserialize<" ++ e.builder ++ ">(reader);"),
          .line ("return (" ++ e.name ++ ")o;")],
      .blank,
      .braces "public override bool CanConvert(Type objectType)"
        [.line ("return objectType == typeof(" ++ e.name ++ ") || objectType == typeof(" ++
          e.builder ++ ");")]]]

end Companion.Entity
