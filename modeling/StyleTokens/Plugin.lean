import StyleTokens.ArbitraryFix
import StyleTokens.Completion
import StyleTokens.Config.File
import StyleTokens.Report
import StyleTokens.Service

namespace StyleTokens

open Text (Range)

structure TokenState where
  config : Config
  cache : SessionCache := {}

structure Plugin (σ : Type) where
  host : σ
  tokens : Option TokenState

namespace Plugin

def withConfig (host : σ) (config : Option Config) : Plugin σ := ⟨host, config.map ({ config := · })⟩

def create (host : σ) (files : Files) (directory : String) (given : Option String) : Plugin σ × LogLine :=
  let (config, line) := Config.loadProject files directory given
  (withConfig host config, line)

def isEnabled (plugin : Plugin σ) : Bool := plugin.tokens.isSome

def config? (plugin : Plugin σ) : Option Config := plugin.tokens.map (·.config)

def cache? (plugin : Plugin σ) : Option SessionCache := plugin.tokens.map (·.cache)

def withCache (plugin : Plugin σ) (cache : SessionCache) : Plugin σ :=
  { plugin with tokens := plugin.tokens.map ({ · with cache }) }

def ask (host : Service σ) (plugin : Plugin σ) (query : Query) : Outcome (Plugin σ) query.Answer :=
  let outcome := host.respond plugin.host query
  ⟨outcome.answer, { plugin with host := outcome.state }, outcome.log⟩

def semanticDiagnostics (host : Service σ) (plugin : Plugin σ) (uri : Uri) :
    Outcome (Plugin σ) (List Diagnostic) :=
  let own := plugin.ask host (.semanticDiagnostics uri)
  match plugin.tokens with
  | none => own
  | some tokens =>
    let found := own.state.ask host (.sourceFile uri)
    let log := own.log ++ found.log
    let (found, state) : Option SourceFile × Plugin σ := (found.answer, found.state)
    match found with
    | none =>
      ⟨own.answer, state, log ++ [.debug ("No source file for " ++ uri.text ++ ", diagnostics left unchanged")]⟩
    | some file =>
      match file.tree with
      | none => ⟨own.answer, state, log⟩
      | some tree => ⟨Report.augment tokens.config tree file.content own.answer, state, log⟩

def codeFixes (host : Service σ) (plugin : Plugin σ) (uri : Uri) (range : Range) (codes : List Int)
    (options : FormatOptions) : Outcome (Plugin σ) (List Fix) :=
  let own := plugin.ask host (.codeFixes uri range codes options)
  if plugin.isEnabled && codes.contains Diagnostic.valueNotAssignable then
    let found := own.state.ask host (.sourceFile uri)
    let log := own.log ++ found.log
    let (found, state) : Option SourceFile × Plugin σ := (found.answer, found.state)
    let action : Option CodeAction := do
      let file ← found
      let tree ← file.tree
      ArbitraryFix.actionAt? tree file.content uri (range.start.offsetIn file.content)
    match action with
    | some action => ⟨[.action action], state, log⟩
    | none => ⟨own.answer, state, log⟩
  else own

-- The host is asked every query first. With a config four kinds of answers are then changed, and without one none is.
def respond (host : Service σ) (plugin : Plugin σ) : (query : Query) → Outcome (Plugin σ) query.Answer
  | .semanticDiagnostics uri => plugin.semanticDiagnostics host uri
  | .codeFixes uri range codes options => plugin.codeFixes host uri range codes options
  | .completions uri position context =>
    let own := plugin.ask host (.completions uri position context)
    match plugin.tokens with
    | none => own
    | some tokens =>
      let (cache, response) := Completion.augment tokens.config tokens.cache own.answer
      ⟨response, own.state.withCache cache, own.log⟩
  | .entryDetails uri position name options source data =>
    let own := plugin.ask host (.entryDetails uri position name options source data)
    match plugin.tokens with
    | none => own
    | some tokens =>
      let details : Option EntryDetails := own.answer
      ⟨(tokens.cache.details? name).or details, own.state, own.log⟩
  | .dispose => (plugin.withCache {}).ask host .dispose
  | query => plugin.ask host query

def service (host : Service σ) : Service (Plugin σ) := ⟨respond host⟩

end Plugin

end StyleTokens
