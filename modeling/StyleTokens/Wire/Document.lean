import StyleTokens.CodeAction
import StyleTokens.Wire.Record

namespace StyleTokens

open Text (Position Range)
open Fields (required optional)

namespace Text

def Position.toJson (position : Position) : Json :=
  .object [("line", .ofNat position.line.toNat), ("character", .ofNat position.character.toNat)]

def Position.decode : Decoder Position :=
  .record "Position" (Position.mk <$> required "line" .word32 <*> required "character" .word32)

def Range.toJson (range : Range) : Json :=
  .object [("start", range.start.toJson), ("end", range.stop.toJson)]

def Range.decode : Decoder Range :=
  .record "Range" (Range.mk <$> required "start" Position.decode <*> required "end" Position.decode)

end Text

namespace Uri

def toJson (uri : Uri) : Json := .string uri.text

def decode : Decoder Uri
  | .string text =>
    match parse text with
    | .ok uri => .ok uri
    | .error reason => .error (.badUri reason.message text)
  | other => .error (.wrongType other "a string representing an URL")

end Uri

namespace Location

def toJson (location : Location) : Json :=
  .object [("uri", location.uri.toJson), ("range", location.range.toJson)]

def decode : Decoder Location :=
  .record "Location" (Location.mk <$> required "uri" Uri.decode <*> required "range" Range.decode)

end Location

namespace DiagnosticCode

def toJson : DiagnosticCode → Json
  | .number value => .ofInt value
  | .text value => .string value

def decode : Decoder DiagnosticCode :=
  .choice "NumberOrString" [fun value => .number <$> Decoder.int32 value, fun value => .text <$> Decoder.string value]

end DiagnosticCode

namespace RelatedInformation

def toJson (information : RelatedInformation) : Json :=
  .object [("location", information.location.toJson), ("message", .string information.message)]

def decode : Decoder RelatedInformation :=
  .record "DiagnosticRelatedInformation"
    (RelatedInformation.mk <$> required "location" Location.decode <*> required "message" .string)

end RelatedInformation

namespace Diagnostic

def describedToJson (uri : Uri) : Json := .object [("href", uri.toJson)]

def decodeDescribed : Decoder Uri := .record "CodeDescription" (required "href" Uri.decode)

def toJson (diagnostic : Diagnostic) : Json :=
  .object (
    [("range", diagnostic.range.toJson)] ++
    Json.optional "severity" .ofInt diagnostic.severity ++
    Json.optional "code" DiagnosticCode.toJson diagnostic.code ++
    Json.optional "codeDescription" describedToJson diagnostic.codeDescription ++
    Json.optional "source" .string diagnostic.source ++
    [("message", .string diagnostic.message)] ++
    Json.optional "relatedInformation" (.ofList RelatedInformation.toJson) diagnostic.relatedInformation ++
    Json.optional "tags" (.ofList .ofInt) diagnostic.tags ++
    Json.optional "data" id diagnostic.data)

def decode : Decoder Diagnostic :=
  .record "Diagnostic" (
    Diagnostic.mk <$> required "range" Range.decode
      <*> optional "severity" .int32
      <*> optional "code" DiagnosticCode.decode
      <*> optional "codeDescription" decodeDescribed
      <*> optional "source" .string
      <*> required "message" .string
      <*> optional "relatedInformation" (.list RelatedInformation.decode)
      <*> optional "tags" (.list .int32)
      <*> optional "data" .any)

end Diagnostic

namespace TextEdit

def toJson (edit : TextEdit) : Json :=
  .object [("range", edit.range.toJson), ("newText", .string edit.newText)]

def decode : Decoder TextEdit :=
  .record "TextEdit" (TextEdit.mk <$> required "range" Range.decode <*> required "newText" .string)

end TextEdit

namespace DocumentEdit

def documentToJson (uri : Uri) (version : Option Int) : Json :=
  .object [("uri", uri.toJson), ("version", .ofOption .ofInt version)]

def toJson (edit : DocumentEdit) : Json :=
  .object [("textDocument", documentToJson edit.uri edit.version), ("edits", .ofList TextEdit.toJson edit.edits)]

def decodeDocument : Decoder (Uri × Option Int) :=
  .record "OptionalVersionedTextDocumentIdentifier"
    (Prod.mk <$> required "uri" Uri.decode <*> optional "version" .int32)

def decode : Decoder DocumentEdit :=
  .record "TextDocumentEdit" (
    (fun (uri, version) edits => ⟨uri, version, edits⟩) <$> required "textDocument" decodeDocument
      <*> required "edits" (.list TextEdit.decode))

end DocumentEdit

namespace NewFileOptions

def toJson (options : NewFileOptions) : Json :=
  .object (
    Json.optional "overwrite" .bool options.overwrite ++
    Json.optional "ignoreIfExists" .bool options.ignoreIfExists)

def decode (name : String) : Decoder NewFileOptions :=
  .record name (NewFileOptions.mk <$> optional "overwrite" .bool <*> optional "ignoreIfExists" .bool)

end NewFileOptions

namespace DeletionOptions

def toJson (options : DeletionOptions) : Json :=
  .object (
    Json.optional "recursive" .bool options.recursive ++
    Json.optional "ignoreIfNotExists" .bool options.ignoreIfNotExists ++
    Json.optional "annotationId" .string options.note)

def decode : Decoder DeletionOptions :=
  .record "DeleteFileOptions" (
    DeletionOptions.mk <$> optional "recursive" .bool <*> optional "ignoreIfNotExists" .bool
      <*> optional "annotationId" .string)

end DeletionOptions

namespace DocumentChange

def toJson : DocumentChange → Json
  | .edit change => change.toJson
  | .create uri options note => .object (
    [("kind", .string "create"), ("uri", uri.toJson)] ++
    Json.optional "options" NewFileOptions.toJson options ++
    Json.optional "annotationId" .string note)
  | .rename oldUri newUri options note => .object (
    [("kind", .string "rename"), ("oldUri", oldUri.toJson), ("newUri", newUri.toJson)] ++
    Json.optional "options" NewFileOptions.toJson options ++
    Json.optional "annotationId" .string note)
  | .delete uri options => .object (
    [("kind", .string "delete"), ("uri", uri.toJson)] ++
    Json.optional "options" DeletionOptions.toJson options)

def decodeFile : Decoder DocumentChange :=
  .tagged "kind" [
    ("create", .record "CreateFile" (
      DocumentChange.create <$> required "uri" Uri.decode
        <*> optional "options" (NewFileOptions.decode "CreateFileOptions")
        <*> optional "annotationId" .string)),
    ("rename", .record "RenameFile" (
      DocumentChange.rename <$> required "oldUri" Uri.decode <*> required "newUri" Uri.decode
        <*> optional "options" (NewFileOptions.decode "RenameFileOptions")
        <*> optional "annotationId" .string)),
    ("delete", .record "DeleteFile" (
      DocumentChange.delete <$> required "uri" Uri.decode <*> optional "options" DeletionOptions.decode))]

def decodeEdit : Decoder DocumentChange := fun value => .edit <$> DocumentEdit.decode value

def decodeList : Decoder (List DocumentChange) :=
  .choice "DocumentChanges" [
    .list decodeEdit,
    .list (.choice "DocumentChangeOperation" [decodeFile, decodeEdit])]

end DocumentChange

namespace ChangeNote

def toJson (note : ChangeNote) : Json :=
  .object (
    [("label", .string note.label)] ++
    Json.optional "needsConfirmation" .bool note.needsConfirmation ++
    Json.optional "description" .string note.description)

def decode : Decoder ChangeNote :=
  .record "ChangeAnnotation" (
    ChangeNote.mk <$> required "label" .string <*> optional "needsConfirmation" .bool
      <*> optional "description" .string)

end ChangeNote

namespace WorkspaceEdit

def changesToJson (changes : List (Uri × List TextEdit)) : Json :=
  .object (changes.map fun (uri, edits) => (uri.text, .ofList TextEdit.toJson edits))

def notesToJson (notes : List (String × ChangeNote)) : Json :=
  .object (notes.map fun (key, note) => (key, note.toJson))

def toJson (edit : WorkspaceEdit) : Json :=
  .object (
    Json.optional "changes" changesToJson edit.changes ++
    Json.optional "documentChanges" (.ofList DocumentChange.toJson) edit.documentChanges ++
    Json.optional "changeAnnotations" notesToJson edit.changeNotes)

-- Of several keys that name one document, the last counts.
def decodeChanges : Decoder (List (Uri × List TextEdit))
  | .object fields => do
    let changes ← (Decoder.entries fields).mapM fun (key, value) => do
      return (← Uri.decode (.string key), ← Decoder.list TextEdit.decode value)
    return changes.foldl (fun done change => done.filter (·.1 != change.1) ++ [change]) []
  | other => .error (.wrongType other "map")

def decode : Decoder WorkspaceEdit :=
  .record "WorkspaceEdit" (
    WorkspaceEdit.mk <$> .defaulted "changes" none (.nullable decodeChanges)
      <*> optional "documentChanges" DocumentChange.decodeList
      <*> optional "changeAnnotations" (.table ChangeNote.decode))

end WorkspaceEdit

namespace Command

def toJson (command : Command) : Json :=
  .object (
    [("title", .string command.title), ("command", .string command.command)] ++
    Json.optional "arguments" .array command.arguments)

def decode : Decoder Command :=
  .record "Command" (
    Command.mk <$> required "title" .string <*> required "command" .string <*> optional "arguments" (.list .any))

end Command

namespace CodeAction

def disabledToJson (reason : String) : Json := .object [("reason", .string reason)]

def decodeDisabled : Decoder String := .record "CodeActionDisabled" (required "reason" .string)

def toJson (action : CodeAction) : Json :=
  .object (
    [("title", .string action.title)] ++
    Json.optional "kind" .string action.kind ++
    Json.optional "diagnostics" (.ofList Diagnostic.toJson) action.diagnostics ++
    Json.optional "edit" WorkspaceEdit.toJson action.edit ++
    Json.optional "command" Command.toJson action.command ++
    Json.optional "isPreferred" .bool action.isPreferred ++
    Json.optional "disabled" disabledToJson action.disabled ++
    Json.optional "data" id action.data)

def decode : Decoder CodeAction :=
  .record "CodeAction" (
    CodeAction.mk <$> required "title" .string
      <*> optional "kind" .string
      <*> optional "diagnostics" (.list Diagnostic.decode)
      <*> optional "edit" WorkspaceEdit.decode
      <*> optional "command" Command.decode
      <*> optional "isPreferred" .bool
      <*> optional "disabled" decodeDisabled
      <*> optional "data" .any)

end CodeAction

namespace Fix

def toJson : Fix → Json
  | .action offered => offered.toJson
  | .command offered => offered.toJson

-- What can be read as a command is one.
def decode : Decoder Fix :=
  .choice "CodeActionOrCommand" [
    fun value => .command <$> Command.decode value,
    fun value => .action <$> CodeAction.decode value]

end Fix

end StyleTokens
