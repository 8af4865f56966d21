import StyleTokens.Proofs.ArbitraryMarks
import StyleTokens.Proofs.Descent
import StyleTokens.Proofs.Clamping
import StyleTokens.Proofs.ServerRuns
import StyleTokens.Proofs.SessionReport

namespace StyleTokens

open Text (IsBoundary LineTable Range)
open Arbitrary (isQuote isWordPart)

-- What the way back from a report to a value needs of a parser's tree. Nothing is asked of nodes that no
-- token pair has to do with, beyond their ranges.
structure WellFormed (root : SyntaxNode) (content : String) : Prop
    extends SyntaxNode.Laid root, KeysInPlace root content where
  boundaries : ∀ node ∈ root.preorder, IsBoundary content.toList node.start ∧ IsBoundary content.toList node.stop
  keyNamed : ∀ token ∈ root.tokens content, token.key.info.named = true
  solid : ∀ token ∈ root.tokens content, root.SolidAt token.key.start
  quoteOnly : ∀ token ∈ root.tokens content, ∀ child ∈ token.key.children,
    child.Covers token.key.start → child.info.named = false ∧ child.children = []

instance (root : SyntaxNode) (content : String) : Decidable (WellFormed root content) :=
  decidable_of_iff (SyntaxNode.Laid root ∧ KeysInPlace root content ∧ _ ∧ _ ∧ _ ∧ _)
    ⟨fun ⟨laid, placed, boundaries, keyNamed, solid, quoteOnly⟩ =>
      { laid, placed with boundaries, keyNamed, solid, quoteOnly },
    fun formed => ⟨formed.toLaid, formed.toKeysInPlace, formed.boundaries, formed.keyNamed, formed.solid,
      formed.quoteOnly⟩⟩

namespace WellFormed

variable {root : SyntaxNode} {content : String} {token : TokenPair}

-- The start of a key leads down to the key: the pair is passed because it starts there as well, and inside
-- the key nothing named has its first byte.
theorem namedAt_key (formed : WellFormed root content) (member : token ∈ root.tokens content) :
    ∃ index above, root.namedAt token.key.start = ⟨token.key, ⟨token.pair, index⟩ :: above⟩ := by
  obtain ⟨pairWithin, -, keyWithin, -⟩ := TokenPair.parts member
  have keyBelow := SyntaxNode.child_mem_preorder keyWithin pairWithin
  have solid := formed.solid token member
  have around := formed.inside token.pair pairWithin token.key keyWithin
  have filled : token.key.start ≠ token.key.stop := fun empty => solid token.key keyBelow empty rfl
  have keyCovers : token.key.Covers token.key.start := ⟨Nat.le_refl _, by omega⟩
  have pairCovers : token.pair.Covers token.key.start := ⟨around.1, by omega⟩
  obtain ⟨above, last, toPair⟩ :=
    SyntaxNode.seek_reaches formed.toLaid solid pairWithin pairCovers [] ⟨root, []⟩
  have pairSolid := solid.below pairWithin
  obtain ⟨index, -, toKey⟩ :=
    SyntaxNode.seek_enters (formed.toLaid.below pairWithin) pairSolid keyWithin keyCovers above last
  have stays := SyntaxNode.seek_stays (pairSolid.child keyWithin) (formed.quoteOnly token member)
    (⟨token.pair, index⟩ :: above) (SyntaxNode.entered token.pair above last index token.key)
  refine ⟨index, above, ?_⟩
  rw [SyntaxNode.namedAt, toPair, toKey, stays, SyntaxNode.entered, if_pos (formed.keyNamed token member)]

theorem valueAt?_key (formed : WellFormed root content) (member : token ∈ root.tokens content) {value : SyntaxNode}
    (hasValue : token.pair.value? = some value) (isString : value.kind = "string") :
    ArbitraryFix.valueAt? root token.key.start = some value := by
  obtain ⟨-, isPair, -, keyString⟩ := TokenPair.parts member
  obtain ⟨index, above, found⟩ := formed.namedAt_key member
  have whole : token.key.isStringFragment = false := by simp [SyntaxNode.isStringFragment, keyString]
  simp [ArbitraryFix.valueAt?, found, SyntaxNode.Cursor.toLiteral?, whole, SyntaxNode.Cursor.parent?, isPair, hasValue,
    SyntaxNode.isString, isString]

theorem actionAt?_key (formed : WellFormed root content) (member : token ∈ root.tokens content) {value : SyntaxNode}
    (hasValue : token.pair.value? = some value) (isString : value.kind = "string") {replacement : String}
    (encoded : Arbitrary.tryEncode? (value.text content) = some replacement) (uri : Uri) :
    ArbitraryFix.actionAt? root content uri token.key.start = some {
      title := ArbitraryFix.title replacement
      kind := some "quickfix"
      edit := some { changes := some [(uri, [⟨value.range (LineTable.ofText content), replacement⟩])] }
      data := some (.object [("fixId", .string ArbitraryFix.fixId)]) } := by
  simp [ArbitraryFix.actionAt?, formed.valueAt?_key member hasValue isString, encoded]

theorem offsetIn_range (formed : WellFormed root content) (short : content.utf8ByteSize < UInt32.size) {node : SyntaxNode}
    (member : node ∈ root.preorder) :
    (node.range (LineTable.ofText content)).start.offsetIn content = node.start ∧
      (node.range (LineTable.ofText content)).stop.offsetIn content = node.stop := by
  rw [← Text.byteLength_toList] at short
  exact ⟨Text.offsetIn_position_of_boundary (formed.boundaries node member).1 short,
    Text.offsetIn_position_of_boundary (formed.boundaries node member).2 short⟩

end WellFormed

namespace Server

variable {config : Config} {server : Server} {uri : Uri} {file : SourceFile} {root : SyntaxNode}

theorem diagnostic_reply (parser : Parser) (server : Server) (uri : Uri) :
    (server.handle parser (.diagnostic uri)).reply =
      server.host.syntacticDiagnostics uri ++ Plugin.report server uri := rfl

theorem syntacticDiagnostics_code {workspace : Workspace} {entry : Diagnostic}
    (member : entry ∈ workspace.syntacticDiagnostics uri) : entry.code = some (.number 1005) := by
  unfold Workspace.syntacticDiagnostics at member
  split at member
  · cases member
  · split at member
    · cases member
    · obtain ⟨node, -, rfl⟩ := List.mem_map.mp member
      rfl

-- The codes tell the three kinds of entries apart, so an entry with the code of a value comes from a pair.
theorem finding_of_reported (parser : Parser) (shares : server.Shares config)
    (opened : server.host.file? uri = some file) (parsed : file.tree = some root)
    (placed : KeysInPlace root file.content) {entry : Diagnostic}
    (reported : entry ∈ (server.handle parser (.diagnostic uri)).reply) (code : entry.code = some (.number 2322)) :
    ∃ token ∈ root.tokens file.content,
      Report.valueFinding? config file.content token.pair = some entry ∧
        entry.range = token.key.range (LineTable.ofText file.content) := by
  rw [diagnostic_reply, Plugin.report_eq_findings shares.1 shares.2 opened parsed placed] at reported
  rcases List.mem_append.mp reported with onParse | reported
  · simp [syntacticDiagnostics_code onParse] at code
  rcases List.mem_append.mp reported with onValue | onName
  · obtain ⟨node, within, found⟩ := List.mem_filterMap.mp onValue
    obtain ⟨token, isToken, -, range, -⟩ := Report.valueFinding?_parts found
    obtain ⟨rfl, -⟩ := TokenPair.ofNode?_eq_some.mp isToken
    exact ⟨token, List.mem_filterMap.mpr ⟨token.pair, within, isToken⟩, found, range⟩
  · obtain ⟨node, -, found⟩ := List.mem_filterMap.mp onName
    obtain ⟨token, -, other, -⟩ := Report.nameFinding?_parts found
    simp [other] at code

theorem mem_numericCodes {entry : Diagnostic} {context : List Diagnostic} {code : Int} (among : entry ∈ context)
    (coded : entry.code = some (.number code)) : code ∈ numericCodes context :=
  List.mem_filterMap.mpr ⟨entry, among, by rw [coded]⟩

theorem codeAction_reply (parser : Parser) (shares : server.Shares config)
    (opened : server.host.file? uri = some file) (parsed : file.tree = some root) {range : Range}
    {context : List Diagnostic} (coded : 2322 ∈ numericCodes context) {action : CodeAction}
    (offered : ArbitraryFix.actionAt? root file.content uri (range.start.offsetIn file.content) = some action) :
    (server.handle parser (.codeAction uri range context)).reply = some [.action action] := by
  obtain ⟨tokens, enabled, -⟩ := Option.map_eq_some_iff.mp shares.1
  have intercepted : Plugin.isEnabled server = true ∧ Diagnostic.valueNotAssignable ∈ numericCodes context :=
    ⟨by simp [Plugin.isEnabled, enabled], coded⟩
  have answered : (server.ask (.codeFixes uri range (numericCodes context) {})).answer = [.action action] := by
    simp [ask, Plugin.respond, Plugin.codeFixes, intercepted, Plugin.ask, Workspace.service, Workspace.respond, opened,
      parsed, offered]
  simp only [handle, answered]
  rfl

-- From an entry of the report back to the value it is about, in any session. The entry is the finding on one
-- pair and lies at no other, and the one action offered at its range puts brackets around the word of that
-- pair's value.
theorem fix_of_reported_value (parser : Parser) (config : Config) (server : Server) (uri : Uri) (file : SourceFile)
    (root : SyntaxNode) (reachable : server.Reachable parser config) (opened : server.host.file? uri = some file)
    (parsed : file.tree = some root) (formed : WellFormed root file.content)
    (short : file.content.utf8ByteSize < UInt32.size) (entry : Diagnostic)
    (reported : entry ∈ (server.handle parser (.diagnostic uri)).reply) (code : entry.code = some (.number 2322)) :
    ∃ token ∈ root.tokens file.content,
      Report.valueFinding? config file.content token.pair = some entry ∧
      (∀ other ∈ root.tokens file.content,
        (LineTable.ofText file.content).position other.pair.start = entry.range.start → other = token) ∧
      ∀ value quote word context, token.pair.value? = some value → value.kind = "string" → isQuote quote = true →
        word ≠ [] → (∀ c ∈ word, isWordPart c = true) →
        value.text file.content = String.ofList ([quote] ++ word ++ [quote]) → entry ∈ context →
        ∃ action edit,
          (server.handle parser (.codeAction uri entry.range context)).reply = some [.action action] ∧
          action.edit = some { changes := some [(uri, [edit])] } ∧
          edit.range = value.range (LineTable.ofText file.content) ∧
          edit.range.start.offsetIn file.content = value.start ∧
          edit.range.stop.offsetIn file.content = value.stop ∧
          edit.newText = String.ofList ([quote] ++ ['['] ++ word ++ [']'] ++ [quote]) := by
  have shares := reachable.shares
  obtain ⟨token, member, finding, range⟩ :=
    finding_of_reported parser shares opened parsed formed.toKeysInPlace reported code
  obtain ⟨pairWithin, -, keyWithin, -⟩ := TokenPair.parts member
  refine ⟨token, member, finding, ?_, ?_⟩
  · intro other otherIn same
    rw [range, formed.atKey other otherIn] at same
    exact formed.toKeysInPlace.unique otherIn member same
  · intro value quote word context hasValue isString isQuote filled parts written among
    have marks : Arbitrary.IsQuotes [quote] := .inr ⟨quote, isQuote, rfl⟩
    have encoded := Arbitrary.tryEncode?_parts marks marks filled parts
    rw [← written] at encoded
    have offered := formed.actionAt?_key member hasValue isString encoded uri
    have keyStart := (formed.offsetIn_range short (SyntaxNode.child_mem_preorder keyWithin pairWithin)).1
    rw [← keyStart, ← range] at offered
    have valueWithin := SyntaxNode.child_mem_preorder (List.mem_of_find?_eq_some hasValue) pairWithin
    have inRange := formed.offsetIn_range short valueWithin
    exact ⟨_, _, codeAction_reply parser shares opened parsed (mem_numericCodes among code) offered, rfl, rfl,
      inRange.1, inRange.2, by simp⟩

end Server

namespace Sample

def parser : Parser := fun _ _ => some tree

def server : Server := (Server.start (some config)).run parser [.didOpen uri text 1]

-- The pair deep inside the second line, whose position in bytes is not its position in the line.
theorem sample_fix :
    WellFormed tree text ∧ ∃ entry ∈ (server.handle parser (.diagnostic uri)).reply, ∃ action edit,
      (server.handle parser (.codeAction uri entry.range [entry])).reply = some [.action action] ∧
      action.edit = some { changes := some [(uri, [edit])] } ∧
      edit = ⟨⟨⟨1, 15⟩, ⟨1, 20⟩⟩, "'[red]'"⟩ := by
  have formed : WellFormed tree text := by decide
  have first : Report.valueFinding? config text innerPair = (server.handle parser (.diagnostic uri)).reply.head? := rfl
  refine ⟨formed, ?_⟩
  obtain ⟨entry, reported⟩ : ∃ entry, (server.handle parser (.diagnostic uri)).reply.head? = some entry := ⟨_, rfl⟩
  have reportedIn := List.mem_of_mem_head? reported
  rw [← first] at reported
  obtain ⟨token, -, -, own, fix⟩ := Server.fix_of_reported_value parser config server uri file tree ⟨_, rfl⟩ rfl rfl
    formed (by decide) entry reportedIn (by cases reported; rfl)
  have same := own ⟨innerPair, quoted true 20 26, "lg$b"⟩
    (List.mem_of_getElem? (i := 1) rfl) (by cases reported; rfl)
  subst same
  obtain ⟨action, edit, reply, change, range, -, -, newText⟩ := fix (quoted false 27 32) '\'' "red".toList [entry] rfl rfl
    rfl (by decide) (List.all_eq_true.mp rfl) (by decide) (by simp)
  refine ⟨entry, reportedIn, action, edit, reply, change, ?_⟩
  cases edit
  cases range
  cases newText
  rfl

end Sample

end StyleTokens
