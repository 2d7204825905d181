/-!
# Options of the generate command

The arguments behind `generate` name one program document and, in any order, options. An output
option takes the argument behind it whatever that is. Of repeated outputs and formats the last
one counts.
-/

namespace Companion

/-- What is wrong with a command line. -/
inductive UsageError where
  /-- An output option is the last argument. -/
  | missingDirectory (option : String)
  | unknownFormat (format : String)
  | unknownOption (option : String)
  | severalDocuments
  | missingDocument
  /-- A code to explain is none. -/
  | unknownCode (text : String)
deriving Repr, DecidableEq

/-- The text that reports the error. -/
def UsageError.message : UsageError → String
  | missingDirectory option => "missing directory after " ++ option
  | unknownFormat format => "unknown format '" ++ format ++ "' (expected text or json)"
  | unknownOption option => "unknown option '" ++ option ++ "'"
  | severalDocuments => "only one program model can be given"
  | missingDocument => "missing program model path"
  | unknownCode text =>
    "unknown error code: " ++ text ++
      "\nCodes have the format KXXXX where X is a digit, for example K2006."

/-- How diagnostics are reported. -/
inductive OutputFormat where
  /-- For people, on the error stream. -/
  | text
  /-- For tools, on the output stream. -/
  | json
deriving Repr, DecidableEq

/-- Options of the generate command. -/
structure GenerateOptions where
  /-- The path of the program document. -/
  document : String
  /-- The output directory. -/
  output : String := "generated"
  format : OutputFormat := .text
  /-- Whether the files are compared with the units instead of written. -/
  checks : Bool := false
deriving Repr, DecidableEq

/-- What one argument means that does not take the argument behind it. -/
inductive OptionArgument where
  | check
  | format (f : OutputFormat)
  | document (path : String)
deriving Repr, DecidableEq

namespace OptionArgument

/-- How an argument that gives a format starts. -/
def formatStart : String := "--format="

/-- Read an argument. -/
def read (argument : String) : Except UsageError OptionArgument :=
  if argument = "--check" then .ok .check
  else if argument = "--format=text" then .ok (.format .text)
  else if argument = "--format=json" then .ok (.format .json)
  else if formatStart.toList.isPrefixOf argument.toList then
    .error (.unknownFormat (String.ofList (argument.toList.drop formatStart.length)))
  else if argument.toList.head? = some '-' then .error (.unknownOption argument)
  else .ok (.document argument)

end OptionArgument

namespace GenerateOptions

/-- The options read so far; the document may still be missing. -/
structure Draft where
  document : Option String := none
  output : Option String := none
  format : OutputFormat := .text
  checks : Bool := false
deriving Repr, DecidableEq

/-- The draft with one more argument. -/
def Draft.add (draft : Draft) : OptionArgument → Except UsageError Draft
  | .check => .ok { draft with checks := true }
  | .format f => .ok { draft with format := f }
  | .document path =>
    match draft.document with
    | some _ => .error .severalDocuments
    | none => .ok { draft with document := some path }

/-- Read arguments into a draft. -/
def Draft.read (draft : Draft) : List String → Except UsageError Draft
  | [] => .ok draft
  | argument :: rest =>
    if argument = "-o" || argument = "--output" then
      match rest with
      | directory :: rest => Draft.read { draft with output := some directory } rest
      | [] => .error (.missingDirectory argument)
    else
      match (OptionArgument.read argument).bind draft.add with
      | .ok draft => Draft.read draft rest
      | .error e => .error e

/-- Read the arguments behind `generate`. -/
def parse (arguments : List String) : Except UsageError GenerateOptions := do
  let draft ← Draft.read {} arguments
  match draft.document with
  | some document =>
    let options : GenerateOptions :=
      { document, format := draft.format, checks := draft.checks }
    return match draft.output with
      | some output => { options with output }
      | none => options
  | none => throw .missingDocument

end GenerateOptions

end Companion
