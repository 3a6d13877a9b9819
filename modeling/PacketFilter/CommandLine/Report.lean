/-
This file carries out commands and reports what comes of them, as lines of text or as a JSON
document.
-/

import PacketFilter.CommandLine.Arguments
import PacketFilter.Eval.Basic
import PacketFilter.Expr.Build
import PacketFilter.Json.Encode

namespace PacketFilter.CommandLine

open Text

/-! ### Reports -/

/-- What comes of a command. -/
inductive Report where
  | literal (kind : Kind) (value : Value) (text : String)
  | comparison (kind : Kind) (expression : String) (result : Bool)
  | slices (series : SliceSeries) (selected? : Option Bytes)
  | kinds (descriptors : List Descriptor)

namespace Report

/-- A text with spaces after it up to a width. -/
def padRight (width : Nat) (text : String) : String :=
  text ++ String.ofList (List.replicate (width - text.length) ' ')

/-- The line about a kind: its number, its names, whether it has literals, and its
comparisons. -/
def kindLine (descriptor : Descriptor) : String :=
  let kind := descriptor.kind
  String.ofList (List.leftpad 2 ' ' (decimalDigits kind.index)) ++ " "
    ++ padRight 14 kind.name ++ " " ++ padRight 17 kind.prettyName ++ " "
    ++ padRight 7 (if descriptor.hasTextForm then "literal" else "-") ++ " "
    ++ String.intercalate " " (descriptor.supported.map Comparison.symbol)

/-- The total of a series that has one. -/
def total? (series : SliceSeries) : Option Int32 :=
  if series.hasTotal then some series.total else none

/-- A report as lines of text. -/
def lines : Report → String
  | .literal kind _ text => kind.name ++ " " ++ text
  | .comparison kind expression result =>
    kind.name ++ ": " ++ expression ++ " -> " ++ (if result then "true" else "false")
  | .slices series selected? =>
    "ranges:    " ++ series.text ++ "\nlength:    "
      ++ ((total? series).map Slice.offsetText).getD "(runs to end)"
      ++ "\nstart:     " ++ Slice.offsetText series.leastStart ++ "..="
      ++ Slice.offsetText series.greatestStart ++ "\nslice:     "
      ++ (selected?.map Bytes.text).getD "(out of bounds)"
  | .kinds descriptors => String.intercalate "\n" (descriptors.map kindLine)

/-- The document about a kind. -/
def kindJson (descriptor : Descriptor) : Json :=
  .object
    [("id", .integer descriptor.kind.index), ("name", .string descriptor.kind.name),
      ("pretty_name", .string descriptor.kind.prettyName),
      ("text_form", .bool descriptor.hasTextForm),
      ("ops", .array (descriptor.supported.map fun comparison => .string comparison.word))]

/-- What may be missing, as a document. -/
def optionalJson {Part : Type} (encode : Part → Json) (part? : Option Part) : Json :=
  (part?.map encode).getD .null

/-- A report as a document. -/
def json : Report → Json
  | .literal kind value text =>
    .object [("kind", .string kind.key), ("value", value.json), ("text", .string text)]
  | .comparison kind expression result =>
    .object [("kind", .string kind.key), ("expr", .string expression), ("result", .bool result)]
  | .slices series selected? =>
    .object
      [("ranges", .array (series.slices.map Slice.json)),
        ("total_length", optionalJson (fun total => .integer total.toInt) (total? series)),
        ("min_start_offset", .integer series.leastStart.toInt),
        ("max_start_offset", .integer series.greatestStart.toInt),
        ("slice", optionalJson (fun selected => .string (Bytes.text selected)) selected?)]
  | .kinds descriptors => .array (descriptors.map kindJson)

/-- The output of a report. -/
def output (asJson : Bool) (report : Report) : String :=
  (if asJson then report.json.prettyText 0 else report.lines) ++ "\n"

end Report

/-! ### Carrying out commands -/

/-- A failure of reading or comparing values, as one of evaluating. -/
def liftFailure : Failure ValueError → Failure EvalError
  | .fault fault => .fault fault
  | .error cause => .error (.value cause)

/-- The literal node of a value. An integer stands in the node itself. -/
def literalNode (registry : Registry) : Value → Except Fault Node
  | .integer number => Node.integer registry number
  | value => Node.literal registry value

/-- What comes of a command in a local zone, under the given settings. -/
def Command.run (zone : Zone) (settings : Settings) (command : Command) :
    Except (Failure EvalError) Report := do
  let registry := Registry.standard settings
  let readLiteral (kind : Kind) (text : String) : Except (Failure EvalError) Value :=
    (registry.readLiteral zone kind text).mapError liftFailure
  match command with
  | .parse kind literal =>
    let value ← readLiteral kind literal
    return .literal kind value (value.text zone)
  | .compare kind left comparison right =>
    let leftValue ← readLiteral kind left
    let rightValue ← readLiteral kind right
    let leftNode ← (literalNode registry leftValue).mapError .fault
    let rightNode ← (literalNode registry rightValue).mapError .fault
    let node ←
      (Node.binaryTest registry (.relation comparison) leftNode rightNode).mapError .fault
    let result ← (evaluate registry (fun _ => []) node).result
    return .comparison kind (node.text zone) result
  | .range bytes slices =>
    let value ← readLiteral .bytes bytes
    let series ← (SliceSeries.ofSlices slices).mapError .fault
    let selected? ← (series.apply (value.bytes?.getD [])).mapError .fault
    return .slices series selected?
  | .kinds => return .kinds registry.descriptors

/-- The output of the program for understood arguments. -/
def Arguments.run (zone : Zone) (arguments : Arguments) : Except (Failure EvalError) String :=
  (arguments.command.run zone arguments.settings).map (Report.output arguments.json)

end PacketFilter.CommandLine
