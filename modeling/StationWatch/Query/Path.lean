import StationWatch.Query.Percent
import StationWatch.Text.Blank

/-!
# Query paths

A query path names a resource of the service and carries options: names with expressions, both
escaped, an equals sign between name and expression, an ampersand between options.  Parentheses in
expressions are left as they are.

## Main definitions

* `stem`, `path` — the path of a resource without and with options.
* `options?` — the options that a path carries.

## References

`SPEC_FULL.md`, sections 4.1 and 4.2.
-/

namespace StationWatch.Query

/-- The version of the interface, the first part of every path. -/
def interfaceVersion : String := "v1.1"

/-- Characters of an expression that are left as they are. -/
def expressionMarks : List Char := ['(', ')']

/-- An option as it stands in a path, if it can be written there. -/
def encodeOption (option : RawText × RawText) : Except EncodingFault (List Char) := do
  let name ← Percent.encodeText [] option.1
  let expression ← Percent.encodeText expressionMarks option.2
  .ok (name ++ '=' :: expression)

/-- A path up to its options. -/
def stem (resource : RawText) : RawText := "/" ++ interfaceVersion ++ "/" ++ resource

/-- The path of a resource with options as they stand in it; a question mark only if there are
any. -/
def pathWith (resource : RawText) (pieces : List (List Char)) : RawText :=
  if pieces.isEmpty then stem resource
  else stem resource ++ "?" ++ String.ofList (Text.joinWith '&' pieces)

/-- The path of a resource with options in their order, if all of them can be written. -/
def path (resource : RawText) (options : List (RawText × RawText)) :
    Except EncodingFault RawText :=
  (options.mapM encodeOption).map (pathWith resource)

/-- The option behind a piece of a path, cut at its first equals sign. -/
def decodeOption (piece : List Char) : Option (String × String) :=
  match piece.dropWhile (· != '=') with
  | [] => none
  | _ :: expression =>
    match Percent.decode (piece.takeWhile (· != '=')), Percent.decode expression with
    | some name, some expression => some (String.ofList name, String.ofList expression)
    | _, _ => none

/-- The options that a path carries after its first question mark.  They stand there as characters,
so a path with a half behind that mark carries none. -/
def options? (path : RawText) : Option (List (String × String)) :=
  match path.cutAt '?' with
  | none => some []
  | some (_, .whole query) => (Text.fields '&' query.toList).mapM decodeOption
  | some (_, .broken _ _ _) => none

end StationWatch.Query
