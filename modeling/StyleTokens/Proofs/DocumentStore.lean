import Mathlib.Data.List.Induction
import StyleTokens.Proofs.ServerRuns
import StyleTokens.Proofs.TokenPairs
import StyleTokens.Proofs.UriText

namespace StyleTokens

section Past

variable {α : Type} {starts lasts : List α → α → Prop}

-- Some entry starts it and every later one lets it last. Either may depend on what came before the entry.
def Since (starts lasts : List α → α → Prop) (history : List α) : Prop :=
  ∃ before entry after, history = before ++ entry :: after ∧ starts before entry ∧
    ∀ middle later rest, after = middle ++ later :: rest → lasts (before ++ entry :: middle) later

theorem not_since_nil : ¬ Since starts lasts [] := by
  rintro ⟨before, entry, after, split, -⟩
  cases (List.append_eq_nil_iff.mp split.symm).2

theorem since_concat {history : List α} {entry : α} :
    Since starts lasts (history ++ [entry]) ↔
      starts history entry ∨ Since starts lasts history ∧ lasts history entry := by
  constructor
  · rintro ⟨before, first, after, cut, started, lasting⟩
    rcases List.eq_nil_or_concat' after with rfl | ⟨between, last, rfl⟩
    · obtain ⟨rfl, same⟩ := List.append_inj' cut rfl
      cases same
      exact .inl started
    · rw [← List.cons_append, ← List.append_assoc] at cut
      obtain ⟨rfl, same⟩ := List.append_inj' cut rfl
      cases same
      refine .inr ⟨⟨before, first, between, rfl, started, ?_⟩, lasting between entry [] rfl⟩
      intro middle later rest inside
      exact lasting middle later (rest ++ [entry]) (by simp [inside])
  · rintro (started | ⟨⟨before, first, after, rfl, started, lasting⟩, last⟩)
    · exact ⟨history, entry, [], rfl, started, by simp⟩
    · refine ⟨before, first, after ++ [entry], by simp, started, ?_⟩
      intro middle later rest cut
      rcases List.eq_nil_or_concat' rest with rfl | ⟨others, final, rfl⟩
      · obtain ⟨rfl, same⟩ := List.append_inj' cut rfl
        cases same
        exact last
      · rw [← List.cons_append, ← List.append_assoc] at cut
        exact lasting middle later others (List.append_inj' cut rfl).1

end Past

theorem Language.eq_ofUri_iff {language : Language} {uri : Uri} :
    language = .ofUri uri ↔ (language = .tsx ↔ ".tsx".toList <:+ uri.path.toList) := by
  unfold Language.ofUri
  rw [← List.isSuffixOf_iff_suffix]
  generalize ".tsx".toList.isSuffixOf uri.path.toList = ends
  cases ends <;> cases language <;> decide

namespace Workspace

variable (parser : Parser) (workspace : Workspace)

theorem file?_openDocument (uri wanted : Uri) (text : String) (version : Int) :
    (workspace.openDocument parser uri text version).state.file? wanted =
      if wanted.text = uri.text then some (parsed parser uri text version).1 else workspace.file? wanted :=
  Table.get?_insert _ _ _ _

theorem file?_closeDocument (uri wanted : Uri) :
    (workspace.closeDocument uri).file? wanted = if wanted.text = uri.text then none else workspace.file? wanted :=
  Table.get?_erase _ _ _

theorem updateDocument_open {uri : Uri} (isOpen : (workspace.file? uri).isSome = true) (text : String) (version : Int) :
    workspace.updateDocument parser uri text version = workspace.openDocument parser uri text version := by
  obtain ⟨file, found⟩ := Option.isSome_iff_exists.mp isOpen
  rw [updateDocument, found]

theorem updateDocument_unopened {uri : Uri} (unopened : workspace.file? uri = none) (text : String) (version : Int) :
    (workspace.updateDocument parser uri text version).state = workspace := by
  rw [updateDocument, unopened]

theorem after_unopened {uri : Uri} (unopened : workspace.file? uri = none) (version : Int) (texts : List String) :
    workspace.after parser (.didChange uri version texts) = workspace := by
  simp only [after]
  split
  · rfl
  · exact workspace.updateDocument_unopened parser unopened _ version

theorem file?_after_apart {call : ServerCall} {wanted : Uri} (apart : ∀ uri ∈ call.document?, wanted.text ≠ uri.text) :
    (workspace.after parser call).file? wanted = workspace.file? wanted := by
  cases call with
  | didOpen uri text version =>
    exact (workspace.file?_openDocument parser uri wanted text version).trans (if_neg (apart uri rfl))
  | didClose uri => exact (workspace.file?_closeDocument uri wanted).trans (if_neg (apart uri rfl))
  | didChange uri version texts =>
    simp only [after]
    split
    · rfl
    · cases isOpen : workspace.file? uri with
      | none => rw [workspace.updateDocument_unopened parser isOpen]
      | some file =>
        rw [workspace.updateDocument_open parser (by rw [isOpen]; rfl), file?_openDocument, if_neg (apart uri rfl)]
  | _ => rfl

end Workspace

namespace Server

variable {parser : Parser}

section Histories

variable (uri : Uri)

def OpenAfter (calls : List ServerCall) : Prop :=
  Since (fun _ call => ∃ text version, call = .didOpen uri text version) (fun _ call => call ≠ .didClose uri) calls

-- The call gives the document a text and a version: it opens it, or changes it while it is open.
inductive Gives (before : List ServerCall) : ServerCall → String → Int → Prop where
  | opening {text : String} {version : Int} : Gives before (.didOpen uri text version) text version
  | changing {text : String} {version : Int} {texts : List String} (isOpen : OpenAfter uri before)
      (last : texts.getLast? = some text) : Gives before (.didChange uri version texts) text version

-- The text and version last given, and the document has not been closed since.
def Latest (calls : List ServerCall) (text : String) (version : Int) : Prop :=
  Since (fun before call => Gives uri before call text version)
    (fun before call => call ≠ .didClose uri ∧ ∀ text version, ¬ Gives uri before call text version) calls

end Histories

theorem Gives.unique {uri : Uri} {before : List ServerCall} {call : ServerCall} {text text' : String}
    {version version' : Int} (gives : Gives uri before call text version) (gives' : Gives uri before call text' version') :
    text = text' ∧ version = version' := by
  cases gives with
  | opening =>
    cases gives'
    exact ⟨rfl, rfl⟩
  | changing isOpen last =>
    cases gives' with
    | changing isOpen' last' => exact ⟨Option.some.inj (last.symm.trans last'), rfl⟩

theorem Gives.openAfter {uri : Uri} {before : List ServerCall} {call : ServerCall} {text : String} {version : Int}
    (gives : Gives uri before call text version) : OpenAfter uri (before ++ [call]) := by
  cases gives with
  | opening => exact since_concat.mpr (.inl ⟨text, version, rfl⟩)
  | changing isOpen last => exact since_concat.mpr (.inr ⟨isOpen, by rintro ⟨⟩⟩)

-- The workspace holds of this document what the calls so far say of it.
structure Recorded (parser : Parser) (uri : Uri) (calls : List ServerCall) (workspace : Workspace) : Prop where
  opened : (workspace.file? uri).isSome = true ↔ OpenAfter uri calls
  latest : ∀ file, workspace.file? uri = some file ↔
    ∃ text version, Latest uri calls text version ∧ (Workspace.parsed parser uri text version).1 = file

section Step

variable {uri : Uri} {calls : List ServerCall} {workspace : Workspace} {call : ServerCall}

theorem file?_after_gives {text : String} {version : Int} (recorded : Recorded parser uri calls workspace)
    (gives : Gives uri calls call text version) :
    (workspace.after parser call).file? uri = some (Workspace.parsed parser uri text version).1 := by
  cases gives with
  | opening => exact (workspace.file?_openDocument parser uri uri text version).trans (if_pos rfl)
  | changing isOpen last =>
    simp only [Workspace.after, last]
    rw [workspace.updateDocument_open parser (recorded.opened.mpr isOpen), Workspace.file?_openDocument, if_pos rfl]

theorem file?_after_silent (recorded : Recorded parser uri calls workspace) (remains : call ≠ .didClose uri)
    (silent : ∀ text version, ¬ Gives uri calls call text version) :
    (workspace.after parser call).file? uri = workspace.file? uri := by
  by_cases own : call.document? = some uri
  · cases call with
    | didOpen _ text version =>
      cases own
      exact absurd .opening (silent text version)
    | didClose _ =>
      cases own
      exact absurd rfl remains
    | didChange _ version texts =>
      cases own
      cases last : texts.getLast? with
      | none => simp only [Workspace.after, last]
      | some text =>
        have unopened : ¬ (workspace.file? uri).isSome = true := fun isOpen =>
          silent text version (.changing (recorded.opened.mp isOpen) last)
        rw [workspace.after_unopened parser (by simpa using unopened)]
    | _ => cases own
  · refine workspace.file?_after_apart parser fun other document same => own ?_
    rw [Uri.eq_of_text same]
    exact document

theorem after_recorded (recorded : Recorded parser uri calls workspace) :
    Recorded parser uri (calls ++ [call]) (workspace.after parser call) := by
  by_cases gives : ∃ text version, Gives uri calls call text version
  · obtain ⟨text, version, gives⟩ := gives
    have given := file?_after_gives recorded gives
    refine ⟨?_, fun file => ?_⟩
    · rw [given]
      exact iff_of_true rfl gives.openAfter
    · rw [given]
      constructor
      · rintro ⟨⟩
        exact ⟨text, version, since_concat.mpr (.inl gives), rfl⟩
      · rintro ⟨text', version', latest, rfl⟩
        rcases since_concat.mp latest with gives' | ⟨-, -, silent⟩
        · obtain ⟨rfl, rfl⟩ := gives.unique gives'
          rfl
        · exact absurd gives (silent text version)
  · have silent : ∀ text version, ¬ Gives uri calls call text version :=
      fun text version given => gives ⟨text, version, given⟩
    have noOpening : ¬ ∃ text version, call = .didOpen uri text version := by
      rintro ⟨text, version, rfl⟩
      exact silent text version .opening
    by_cases closes : call = .didClose uri
    · have closed : (workspace.after parser call).file? uri = none := by
        rw [closes]
        exact (workspace.file?_closeDocument uri uri).trans (if_pos rfl)
      refine ⟨?_, fun file => ?_⟩
      · rw [closed]
        simp [OpenAfter, since_concat, closes]
      · rw [closed]
        refine iff_of_false (by simp) ?_
        rintro ⟨text, version, latest, -⟩
        rcases since_concat.mp latest with given | ⟨-, remains, -⟩
        · exact silent text version given
        · exact remains closes
    · have kept := file?_after_silent recorded closes silent
      refine ⟨?_, fun file => ?_⟩
      · simpa [kept, OpenAfter, since_concat, noOpening, closes] using recorded.opened
      · simpa [kept, Latest, since_concat, silent, closes] using recorded.latest file

end Step

-- The documents after a session's calls.
def store (parser : Parser) (config : Option Config) (calls : List ServerCall) : Workspace :=
  ((start config).run parser calls).host

theorem store_concat (config : Option Config) (calls : List ServerCall) (call : ServerCall) :
    store parser config (calls ++ [call]) = (store parser config calls).after parser call := by
  rw [store, run_append]
  exact handle_host parser _ call

theorem store_recorded (config : Option Config) (calls : List ServerCall) (uri : Uri) :
    Recorded parser uri calls (store parser config calls) := by
  induction calls using List.reverseRecOn with
  | nil =>
    have empty : (store parser config []).file? uri = none := rfl
    refine ⟨?_, fun file => ?_⟩
    · simp [empty, OpenAfter, not_since_nil]
    · simp [empty, Latest, not_since_nil]
  | append_singleton calls call ih =>
    rw [store_concat]
    exact after_recorded ih

-- Text, version and tree move together, and each document is as the last call that gave it a text left it.
theorem store_of_history (parser : Parser) (config : Option Config) (calls : List ServerCall) :
    (∀ uri : Uri,
      (((store parser config calls).file? uri).isSome = true ↔ OpenAfter uri calls) ∧
      (∀ file, (store parser config calls).file? uri = some file ↔
        file.uri = uri ∧ Latest uri calls file.content file.version ∧
          ∃ language, (language = .tsx ↔ ".tsx".toList <:+ uri.path.toList) ∧ file.tree = parser language file.content) ∧
      (∀ version texts, ¬ OpenAfter uri calls →
        store parser config (calls ++ [.didChange uri version texts]) = store parser config calls)) ∧
    (∀ call, call.document? = none → store parser config (calls ++ [call]) = store parser config calls) ∧
    ∀ call uri other, call.document? = some uri → other ≠ uri →
      (store parser config (calls ++ [call])).file? other = (store parser config calls).file? other := by
  refine ⟨fun uri => ?_, fun call undocumented => ?_, fun call uri other document apart => ?_⟩
  · obtain ⟨opened, latest⟩ := store_recorded config calls uri
    refine ⟨opened, fun file => ?_, fun version texts closed => ?_⟩
    · rw [latest file]
      constructor
      · rintro ⟨text, version, given, rfl⟩
        exact ⟨rfl, given, .ofUri uri, Language.eq_ofUri_iff.mp rfl, rfl⟩
      · rintro ⟨rfl, given, language, written, grown⟩
        rw [Language.eq_ofUri_iff.mpr written] at grown
        exact ⟨file.content, file.version, given, congrArg (SourceFile.mk file.uri file.content file.version) grown.symm⟩
    · rw [store_concat]
      refine Workspace.after_unopened parser _ ?_ version texts
      simpa using fun isOpen => closed (opened.mp isOpen)
  · rw [store_concat, Workspace.after_undocumented parser _ undocumented]
  · rw [store_concat]
    refine Workspace.file?_after_apart parser _ fun named among same => apart ?_
    cases document.symm.trans among
    exact Uri.eq_of_text same

end Server

namespace Sample

-- What ends the query is not what ends the path.
def page : Uri := ⟨⟨"file:///b.tsx?from=a.ts", "/b.tsx"⟩, "file:///b.tsx?from=a.ts", rfl⟩

def grammar : Parser := fun language text =>
  some (named (match language with | .ts => "ts" | .tsx => "tsx") 0 text.utf8ByteSize [])

def edits : List ServerCall :=
  [.didChange uri 1 ["early"], .didOpen uri "a" 1, .didOpen page "b" 7, .didClose uri, .didOpen uri "c" 2,
   .didChange uri 3 ["d", "e"], .shutdown, .didChange page 8 ["f"], .didChange page 9 []]

theorem edits_stored :
    Server.Latest uri edits "e" 3 ∧ Server.Latest page edits "f" 8 ∧
      (Server.store grammar none edits).file? page = some ⟨page, "f", 8, some (named "tsx" 0 1 [])⟩ := by
  obtain ⟨stored, -⟩ := Server.store_of_history grammar none edits
  have first : (Server.store grammar none edits).file? uri = some ⟨uri, "e", 3, some (named "ts" 0 1 [])⟩ := rfl
  have second : (Server.store grammar none edits).file? page = some ⟨page, "f", 8, some (named "tsx" 0 1 [])⟩ := rfl
  exact ⟨(((stored uri).2.1 _).mp first).2.1, (((stored page).2.1 _).mp second).2.1, second⟩

end Sample

end StyleTokens
