import StyleTokens.Proofs.OriginData
import StyleTokens.Proofs.ServerCache
import StyleTokens.Proofs.TokenPairs

namespace StyleTokens

namespace Server

open Text (Position)
open Workspace (themeItems)

variable {config : Config} {server : Server} {cache : SessionCache} {uri : Uri} {position : Position}

theorem completion_reply (parser : Parser) (enabled : server.tokens = some ⟨config, cache⟩)
    (context : Option CompletionContext) :
    (server.handle parser (.completion uri position context)).reply =
      (server.host.completions uri position).map fun offered => offered.withItems
        ((offered.items.map (Completion.shown config)).map (markOrigin ⟨uri, position⟩)) := by
  obtain ⟨workspace, tokens⟩ := server
  cases enabled
  cases answered : workspace.completions uri position with
  | none => simp [handle, ask, Plugin.respond, Plugin.ask, Workspace.service, Workspace.respond, Completion.augment, answered]
  | some offered =>
    cases offered <;>
      simp [handle, ask, Plugin.respond, Plugin.ask, Workspace.service, Workspace.respond, Completion.augment, answered,
        Completion.augmentItems_items, CompletionResponse.items, CompletionResponse.withItems]

theorem resolve_reply (parser : Parser) (enabled : server.tokens = some ⟨config, cache⟩) {item : CompletionItem}
    {origin : Origin} (known : item.data.bind Origin.ofData? = some origin) :
    (server.handle parser (.resolve item)).reply = withDetails item (cache.details? item.label) := by
  obtain ⟨workspace, tokens⟩ := server
  cases enabled
  have answered : (ask ⟨workspace, some ⟨config, cache⟩⟩
      (.entryDetails origin.uri origin.position item.label {} none item.data)).answer = cache.details? item.label :=
    Option.or_none
  simp only [handle, known, answered]

-- While the theme is listed, an item with a short name is given the key and the value of the last entry.
theorem resolve_listed (parser : Parser) (holds : server.Listed config) (item : CompletionItem)
    {origin : Origin} (known : item.data.bind Origin.ofData? = some origin) {reference : Reference}
    (shaped : reference.Shaped) (label : item.label = reference.shortName) {entry : CacheEntry}
    (last : LastEntry config reference.token entry) :
    (server.handle parser (.resolve item)).reply =
      { item with detail := some (entry.themeKey ++ ": " ++ entry.tokenValue) } := by
  obtain ⟨-, cache, enabled, lists⟩ := holds
  have found := (lists reference.token entry).mpr last
  have filled : entry.themeKey.isEmpty = false := by
    have key := (Reference.isName_encode.mp last.named).key_filled
    simpa using key
  rw [resolve_reply parser enabled known]
  simp [SessionCache.details?, SessionCache.shortToken?_shortName shaped, found, withDetails, detailText, filled, label]

-- Resolved again after further calls, it comes back as the first time.
theorem resolve_again (parser : Parser) (holds : server.Listed config) {item : CompletionItem}
    {origin : Origin} (known : item.data.bind Origin.ofData? = some origin) {reference : Reference}
    (shaped : reference.Shaped) (label : item.label = reference.shortName) {entry : CacheEntry}
    (last : LastEntry config reference.token entry) {later : List ServerCall} (goesOn : .shutdown ∉ later)
    (detail : Option String) :
    ((server.run parser (.resolve item :: later)).handle parser (.resolve { item with detail })).reply =
      { item with detail := some (entry.themeKey ++ ": " ++ entry.tokenValue) } := by
  have still := run_listed parser (handle_listed parser server (.resolve item) holds (by simp)) goesOn
  exact resolve_listed parser still { item with detail } known shaped label last

theorem themeItems_data {item : CompletionItem} (member : item ∈ themeItems config) : item.data = none := by
  obtain ⟨⟨themeKey, tokens⟩, -, within⟩ := List.mem_flatMap.mp member
  obtain ⟨token, -, rfl⟩ := List.mem_map.mp within
  rfl

-- A response holds the theme's items in their order, each as it is shown and marked with where it was asked for.
theorem completion_items (parser : Parser) (shares : server.Shares config)
    (enabled : server.tokens = some ⟨config, cache⟩) {context : Option CompletionContext}
    {response : CompletionResponse}
    (replied : (server.handle parser (.completion uri position context)).reply = some response) :
    ∃ offered, server.host.completions uri position = some offered ∧ offered.items = themeItems config ∧
      response.items = (themeItems config).map fun own => markOrigin ⟨uri, position⟩ (Completion.shown config own) := by
  rw [completion_reply parser enabled] at replied
  obtain ⟨offered, answered, rfl⟩ := Option.map_eq_some_iff.mp replied
  cases completions_items shares answered
  exact ⟨_, answered, rfl, List.map_map⟩

theorem origin_of_item {own : CompletionItem} (listed : own ∈ themeItems config) (origin : Origin)
    (normal : Uri.parse origin.uri.text = .ok origin.uri) :
    (markOrigin origin (Completion.shown config own)).data.bind Origin.ofData? = some origin := by
  have data : (markOrigin origin (Completion.shown config own)).data = some origin.toJson := by
    simp [markOrigin, Completion.shown_data, themeItems_data listed]
  rw [data, Option.bind_some, Origin.ofData?_toJson origin normal]

-- The cache is empty or lists the theme at any moment. From a completion with a response up to the next shutdown
-- it lists the theme, and an item of the response whose label was shortened is resolved to the last entry of its
-- token; that is the item's own key and value if no other key names the token.
theorem resolve_of_completion (parser : Parser) (config : Config) (calls : List ServerCall) :
    (∃ cache, ((start (some config)).run parser calls).cache? = some cache ∧ (cache = {} ∨ cache.Lists config)) ∧
    ∀ before uri position context response after,
      calls = before ++ .completion uri position context :: after → .shutdown ∉ after →
      (((start (some config)).run parser before).handle parser (.completion uri position context)).reply =
        some response →
      (∃ cache, ((start (some config)).run parser calls).cache? = some cache ∧ cache.Lists config) ∧
      ∃ offered, ((start (some config)).run parser before).host.completions uri position = some offered ∧
        offered.items.length = response.items.length ∧
        ∀ (i : Nat) own item token, offered.items[i]? = some own → response.items[i]? = some item →
          item.label ≠ own.label → item.label = "$" ++ token → Uri.parse uri.text = .ok uri →
          ∃ entry resolved, LastEntry config token entry ∧
            resolved = { item with detail := some (entry.themeKey ++ ": " ++ entry.tokenValue) } ∧
            (((start (some config)).run parser calls).handle parser (.resolve item)).reply = resolved ∧
            (∀ later, .shutdown ∉ later →
              (((start (some config)).run parser (calls ++ .resolve item :: later)).handle parser
                (.resolve resolved)).reply = resolved) ∧
            ∃ themeKey value, own.label = Reference.encode ⟨themeKey, token⟩ ∧
              config.themeValue? themeKey token = some value ∧
              ((∀ other, config.Names other token → other = themeKey) → entry = ⟨themeKey, value⟩) := by
  constructor
  · obtain ⟨-, cache, enabled, holds⟩ := run_emptyOrListed parser config calls
    exact ⟨cache, by simp [Plugin.cache?, enabled], holds⟩
  · rintro before uri position context response after rfl goesOn replied
    obtain ⟨shares, old, enabled, holds⟩ := run_emptyOrListed parser config before
    obtain ⟨offered, answered, listed, items⟩ := completion_items parser shares enabled replied
    have caches : ((start (some config)).run parser (before ++ .completion uri position context :: after)).Listed
        config := by
      rw [run_append]
      exact run_listed parser (completion_listed parser ⟨shares, old, enabled, holds⟩ answered) goesOn
    refine ⟨?_, offered, answered, by rw [items, listed, List.length_map], ?_⟩
    · obtain ⟨-, cache, filled, lists⟩ := caches
      exact ⟨cache, by simp [Plugin.cache?, filled], lists⟩
    · intro i own item token hostItem given shortened short normal
      rw [listed] at hostItem
      rw [items, List.getElem?_map, hostItem, Option.map_some, Option.some.injEq] at given
      have shownLabel : item.label = (Completion.shown config own).label := by rw [← given]; rfl
      have known : item.data.bind Origin.ofData? = some ⟨uri, position⟩ := by
        rw [← given]
        exact origin_of_item (List.mem_of_getElem? hostItem) ⟨uri, position⟩ normal
      rw [shownLabel] at shortened
      obtain ⟨reference, value, shaped, label, found, name⟩ := Completion.shown_label shortened
      rw [← shownLabel] at name
      cases Reference.shortName_inj (name.symm.trans short)
      have names : config.Names reference.themeKey reference.token :=
        ⟨by rw [found]; rfl, Reference.isName_encode.mpr shaped⟩
      obtain ⟨entry, last⟩ := Workspace.exists_lastEntry names
      refine ⟨entry, _, last, rfl, resolve_listed parser caches item known shaped name last, ?_,
        reference.themeKey, value, label, found, ?_⟩
      · intro later still
        rw [run_append]
        exact resolve_again parser caches known shaped name last still _
      · intro alone
        exact last.eq_of_key (alone entry.themeKey last.names) found

end Server

namespace Sample

-- Two keys have a token of the same name.
def themed : Config :=
  { theme := .ofList [("space", .ofList [("blue", "1px")]), ("color", .ofList [("blue", "#00f"), ("red", "#f00")])] }

def listing : List ServerCall := [.didOpen uri text 1, .completion uri ⟨1, 17⟩ none, .hover uri ⟨0, 0⟩]

-- The item of the first key is resolved to the value under the second, which comes after it.
theorem sample_resolved :
    Uri.parse uri.text = .ok uri ∧ ∃ item : CompletionItem, item.label = "$blue" ∧ item.detail = some "color" ∧
      (((Server.start (some themed)).run (fun _ _ => some tree) listing).handle (fun _ _ => some tree)
        (.resolve item)).reply = { item with detail := some "space: 1px" } := by
  have normal : Uri.parse uri.text = .ok uri := rfl
  refine ⟨normal, ?_⟩
  obtain ⟨-, completed⟩ := Server.resolve_of_completion (fun _ _ => some tree) themed listing
  obtain ⟨response, replied⟩ : ∃ response, (((Server.start (some themed)).run (fun _ _ => some tree)
      [.didOpen uri text 1]).handle (fun _ _ => some tree) (.completion uri ⟨1, 17⟩ none)).reply = some response :=
    ⟨_, rfl⟩
  obtain ⟨-, offered, answered, -, items⟩ :=
    completed [.didOpen uri text 1] uri ⟨1, 17⟩ none response [.hover uri ⟨0, 0⟩] rfl (by simp) replied
  cases replied
  cases answered
  obtain ⟨entry, resolved, last, rfl, reply, -⟩ := items 0 _ _ "blue" rfl rfl (by decide) rfl normal
  have second : LastEntry themed "blue" ⟨"space", "1px"⟩ := Workspace.lastEntry_of_getLast? rfl
  cases last.unique second
  exact ⟨_, rfl, rfl, reply⟩

end Sample

end StyleTokens
