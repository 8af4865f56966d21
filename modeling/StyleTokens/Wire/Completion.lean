import StyleTokens.CompletionItem
import StyleTokens.Wire.Document

namespace StyleTokens

open Text (Range)
open Fields (required optional)

namespace Markup

def toJson (text : Markup) : Json := .object [("kind", .string text.kind), ("value", .string text.value)]

def decodeKind : Decoder String := .name ["plaintext", "markdown"]

def decode : Decoder Markup :=
  .record "MarkupContent" (Markup.mk <$> required "kind" decodeKind <*> required "value" .string)

end Markup

namespace Documentation

def toJson : Documentation → Json
  | .plain text => .string text
  | .markup text => text.toJson

def decode : Decoder Documentation :=
  .choice "Documentation" [fun value => .plain <$> Decoder.string value, fun value => .markup <$> Markup.decode value]

end Documentation

namespace MarkedText

def toJson : MarkedText → Json
  | .plain text => .string text
  | .code language value => .object [("language", .string language), ("value", .string value)]

def decode : Decoder MarkedText :=
  .choice "MarkedString" [
    fun value => .plain <$> Decoder.string value,
    .record "LanguageString" (MarkedText.code <$> required "language" .string <*> required "value" .string)]

end MarkedText

namespace HoverContents

def toJson : HoverContents → Json
  | .single text => text.toJson
  | .list texts => .ofList MarkedText.toJson texts
  | .markup text => text.toJson

def decode : Decoder HoverContents :=
  .choice "HoverContents" [
    fun value => .single <$> MarkedText.decode value,
    fun value => .list <$> Decoder.list MarkedText.decode value,
    fun value => .markup <$> Markup.decode value]

end HoverContents

namespace Hover

def toJson (hover : Hover) : Json :=
  .object ([("contents", hover.contents.toJson)] ++ Json.optional "range" Range.toJson hover.range)

def decode : Decoder Hover :=
  .record "Hover" (Hover.mk <$> required "contents" HoverContents.decode <*> optional "range" Range.decode)

end Hover

namespace LabelDetails

def toJson (details : LabelDetails) : Json :=
  .object (
    Json.optional "detail" .string details.detail ++
    Json.optional "description" .string details.description)

def decode : Decoder LabelDetails :=
  .record "CompletionItemLabelDetails"
    (LabelDetails.mk <$> optional "detail" .string <*> optional "description" .string)

end LabelDetails

namespace CompletionEdit

def toJson : CompletionEdit → Json
  | .edit change => change.toJson
  | .insertReplace newText insert replace =>
    .object [("newText", .string newText), ("insert", insert.toJson), ("replace", replace.toJson)]

def decode : Decoder CompletionEdit :=
  .choice "CompletionTextEdit" [
    fun value => .edit <$> TextEdit.decode value,
    .record "InsertReplaceEdit" (
      CompletionEdit.insertReplace <$> required "newText" .string <*> required "insert" Range.decode
        <*> required "replace" Range.decode)]

end CompletionEdit

namespace CompletionItem

def toJson (item : CompletionItem) : Json :=
  .object (
    [("label", .string item.label)] ++
    Json.optional "labelDetails" LabelDetails.toJson item.labelDetails ++
    Json.optional "kind" .ofInt item.kind ++
    Json.optional "detail" .string item.detail ++
    Json.optional "documentation" Documentation.toJson item.documentation ++
    Json.optional "deprecated" .bool item.deprecated ++
    Json.optional "preselect" .bool item.preselect ++
    Json.optional "sortText" .string item.sortText ++
    Json.optional "filterText" .string item.filterText ++
    Json.optional "insertText" .string item.insertText ++
    Json.optional "insertTextFormat" .ofInt item.insertTextFormat ++
    Json.optional "insertTextMode" .ofInt item.insertTextMode ++
    Json.optional "textEdit" CompletionEdit.toJson item.textEdit ++
    Json.optional "additionalTextEdits" (.ofList TextEdit.toJson) item.additionalTextEdits ++
    Json.optional "command" Command.toJson item.command ++
    Json.optional "commitCharacters" (.ofList .string) item.commitCharacters ++
    Json.optional "data" id item.data ++
    Json.optional "tags" (.ofList .ofInt) item.tags)

def decode : Decoder CompletionItem :=
  .record "CompletionItem" (
    CompletionItem.mk <$> required "label" .string
      <*> optional "labelDetails" LabelDetails.decode
      <*> optional "kind" .int32
      <*> optional "detail" .string
      <*> optional "documentation" Documentation.decode
      <*> optional "deprecated" .bool
      <*> optional "preselect" .bool
      <*> optional "sortText" .string
      <*> optional "filterText" .string
      <*> optional "insertText" .string
      <*> optional "insertTextFormat" .int32
      <*> optional "insertTextMode" .int32
      <*> optional "textEdit" CompletionEdit.decode
      <*> optional "additionalTextEdits" (.list TextEdit.decode)
      <*> optional "command" Command.decode
      <*> optional "commitCharacters" (.list .string)
      <*> optional "data" .any
      <*> optional "tags" (.list .int32))

end CompletionItem

namespace CompletionResponse

def toJson : CompletionResponse → Json
  | .array items => .ofList CompletionItem.toJson items
  | .list isIncomplete items =>
    .object [("isIncomplete", .bool isIncomplete), ("items", .ofList CompletionItem.toJson items)]

def decode : Decoder CompletionResponse :=
  .choice "CompletionResponse" [
    fun value => .array <$> Decoder.list CompletionItem.decode value,
    .record "CompletionList" (
      CompletionResponse.list <$> required "isIncomplete" .bool
        <*> required "items" (.list CompletionItem.decode))]

end CompletionResponse

namespace EntryDetails

def toJson (details : EntryDetails) : Json :=
  .object [
    ("name", .string details.name),
    ("kind", .string details.kind),
    ("kindModifiers", .string details.kindModifiers),
    ("display", .string details.display),
    ("documentation", .ofOption .string details.documentation)]

def decode : Decoder EntryDetails :=
  .record "EntryDetails" (
    EntryDetails.mk <$> required "name" .string <*> required "kind" .string
      <*> required "kindModifiers" .string <*> required "display" .string
      <*> optional "documentation" .string)

end EntryDetails

end StyleTokens
