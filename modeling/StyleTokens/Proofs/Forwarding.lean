import Mathlib.Data.List.Forall2
import StyleTokens.Proofs.PluginSteps

namespace StyleTokens

variable {σ : Type}

namespace Service

theorem run_append (service : Service σ) (state : σ) (first last : List Query) :
    service.run state (first ++ last) =
      ((service.run (service.run state first).1 last).1,
        (service.run state first).2 ++ (service.run (service.run state first).1 last).2) := by
  induction first generalizing state with
  | nil => rfl
  | cons query rest ih => simp only [List.cons_append, run, ih]

-- Keeping the queries changes nothing else, and all of them are kept.
theorem recorded_run (service : Service σ) (state : σ) (asked queries : List Query) :
    service.recorded.run (state, asked) queries =
      (((service.run state queries).1, asked ++ queries), (service.run state queries).2) := by
  induction queries generalizing state asked with
  | nil => simp [run]
  | cons query rest ih =>
    have one : service.recorded.respond (state, asked) query = ⟨(service.respond state query).answer,
      ((service.respond state query).state, asked ++ [query]), (service.respond state query).log⟩ := rfl
    simp [run, one, ih]

end Service

namespace Config

-- The line that tells what became of the config at a path.
def lineFor (path : String) : Except ConfigError Config → LogLine
  | .ok _ => .info ("Loaded token config from " ++ path)
  | .error (.notFound _) => .warn ("No token config found at " ++ path ++ ", token features are disabled")
  | .error problem => .error ("Failed to load token config " ++ path ++ ": " ++ problem.message ++
      ", token features are disabled")

theorem loadAt_notAFile {files : Files} {path : String} (missing : (files path).isFile = false) :
    loadAt files path = .error (.notFound path) := by
  cases found : files path with
  | notAFile => simp [loadAt, found]
  | unreadable => simp [found, FileContent.isFile] at missing
  | text content => simp [found, FileContent.isFile] at missing

theorem loadAt_isFile {files : Files} {path other : String} (present : (files path).isFile = true) :
    loadAt files path ≠ .error (.notFound other) := by
  unfold loadAt
  split
  · rename_i missing
    simp [missing, FileContent.isFile] at present
  · simp
  · split
    · cases ofYamlText? _ <;> simp
    · cases ofJsonText? _ <;> simp

-- Whether there is a file is asked before it is loaded, but loading alone decides.
theorem loadProject_eq (files : Files) (directory : String) (given : Option String) :
    loadProject files directory given =
      ((loadAt files (pathFor directory given)).toOption,
        lineFor (pathFor directory given) (loadAt files (pathFor directory given))) := by
  unfold loadProject
  dsimp only
  split
  · rename_i present
    split
    · rename_i config loaded
      rw [loaded]
      rfl
    · rename_i problem failed
      rw [failed]
      cases problem with
      | notFound other => exact absurd failed (loadAt_isFile present)
      | io context => rfl
      | json => rfl
      | yaml => rfl
  · rename_i absent
    rw [loadAt_notAFile (Bool.eq_false_iff.mpr absent)]
    rfl

end Config

namespace Plugin

theorem respond_forwarded (host : Service σ) (plugin : Plugin σ) {query : Query} (plain : query.isIntercepted = false) :
    (respond host plugin query).answer = (host.respond plugin.host query).answer ∧
      (respond host plugin query).state.host = (host.respond plugin.host query).state := by
  cases query with
  | semanticDiagnostics uri => cases plain
  | codeFixes uri range codes options => cases plain
  | completions uri position context => cases plain
  | entryDetails uri position name options source data => cases plain
  | dispose => exact ⟨rfl, rfl⟩
  | sourceFile uri => exact ⟨rfl, rfl⟩
  | syntacticDiagnostics uri => exact ⟨rfl, rfl⟩
  | quickInfo uri position => exact ⟨rfl, rfl⟩
  | definition uri position => exact ⟨rfl, rfl⟩
  | references uri position => exact ⟨rfl, rfl⟩
  | formatting uri options => exact ⟨rfl, rfl⟩

-- How an exchange with the plugin goes together with the plugin's exchanges with its host. A query that is not
-- intercepted is put to the host as it is, and its answer is handed on as it is.
inductive Conducts : Exchange → List Exchange → Prop where
  | forwarded {exchange : Exchange} (plain : exchange.1.isIntercepted = false) : Conducts exchange [exchange]
  | intercepted {query : Query} {answer own : query.Answer} (taken : query.isIntercepted = true) :
      Conducts ⟨query, answer⟩ [⟨query, own⟩]
  | consulting {query : Query} {answer own : query.Answer} {uri : Uri} {file : Option SourceFile}
      (taken : query.isIntercepted = true) (consults : query.consulted? = some uri) :
      Conducts ⟨query, answer⟩ [⟨query, own⟩, ⟨.sourceFile uri, file⟩]

theorem respond_conducts (host : Service σ) (plugin : Plugin σ) (query : Query) :
    ∃ block, Conducts ⟨query, (respond host plugin query).answer⟩ block ∧
      host.run plugin.host (block.map (·.1)) = ((respond host plugin query).state.host, block) := by
  cases taken : query.isIntercepted with
  | false =>
    obtain ⟨answer, state⟩ := respond_forwarded host plugin taken
    refine ⟨_, .forwarded taken, ?_⟩
    rw [state, answer]
    rfl
  | true =>
    rcases respond_host host plugin query with state | ⟨uri, consults, state⟩
    · refine ⟨[⟨query, (host.respond plugin.host query).answer⟩], .intercepted taken, ?_⟩
      rw [state]
      rfl
    · refine ⟨[⟨query, (host.respond plugin.host query).answer⟩,
        ⟨.sourceFile uri, (host.respond (host.respond plugin.host query).state (.sourceFile uri)).answer⟩],
        .consulting taken consults, ?_⟩
      rw [state]
      rfl

-- A whole run, block by block: the host alone, asked the same queries in the same order, says the same.
theorem run_conducts (host : Service σ) (plugin : Plugin σ) (queries : List Query) :
    ∃ blocks : List (List Exchange), List.Forall₂ Conducts ((service host).run plugin queries).2 blocks ∧
      host.run plugin.host (blocks.flatten.map (·.1)) = (((service host).run plugin queries).1.host, blocks.flatten) := by
  induction queries generalizing plugin with
  | nil => exact ⟨[], .nil, rfl⟩
  | cons query rest ih =>
    obtain ⟨block, conducts, now⟩ := respond_conducts host plugin query
    obtain ⟨blocks, others, later⟩ := ih (respond host plugin query).state
    refine ⟨block :: blocks, .cons conducts others, ?_⟩
    rw [List.flatten_cons, List.map_append, Service.run_append, now, later]
    rfl

-- Without a config the plugin is its host, seen through a wrapping that adds nothing.
theorem withConfig_none_views (host : Service σ) : Service.Views (withConfig · none) host (service host) := by
  intro state query
  cases query <;> rfl

-- The ways to a plugin without a config.
inductive Unconfigured (host : σ) : Plugin σ → Prop where
  | given : Unconfigured host (withConfig host none)
  | noFile {files : Files} {directory : String} {path : Option String}
      (missing : (files (Config.pathFor directory path)).isFile = false) :
      Unconfigured host (create host files directory path).1
  | failed {files : Files} {directory : String} {path : Option String} {problem : ConfigError}
      (fails : Config.loadAt files (Config.pathFor directory path) = .error problem) :
      Unconfigured host (create host files directory path).1

theorem create_eq (host : σ) (files : Files) (directory : String) (given : Option String) :
    create host files directory given =
      (withConfig host (Config.loadAt files (Config.pathFor directory given)).toOption,
        Config.lineFor (Config.pathFor directory given) (Config.loadAt files (Config.pathFor directory given))) := by
  rw [create, Config.loadProject_eq]

theorem Unconfigured.eq {host : σ} {plugin : Plugin σ} (unconfigured : Unconfigured host plugin) :
    plugin = withConfig host none := by
  cases unconfigured with
  | given => rfl
  | noFile missing => rw [create_eq, Config.loadAt_notAFile missing]; rfl
  | failed fails => rw [create_eq, fails]; rfl

-- What a host of any kind notices of the plugin, over any queries. Without a config it is asked just these, and
-- its answers are the plugin's. With one, each query is put to it first, and only after the two that go by a tree
-- may it be asked for the source file; answers to queries that are not intercepted are its own.
theorem queries_forwarded (host : Service σ) (state : σ) (queries : List Query) :
    (∀ plugin, Unconfigured (state, []) plugin →
      (service host.recorded).run plugin queries =
        (withConfig ((host.run state queries).1, queries) none, (host.run state queries).2)) ∧
    (∀ files directory given,
      (∀ config, (create state files directory given).1.config? = some config ↔
        Config.loadAt files (Config.pathFor directory given) = .ok config) ∧
      (create state files directory given).2 =
        Config.lineFor (Config.pathFor directory given) (Config.loadAt files (Config.pathFor directory given))) ∧
    ∀ config, ∃ blocks : List (List Exchange),
      List.Forall₂ Conducts ((service host.recorded).run (withConfig (state, []) (some config)) queries).2 blocks ∧
      ((service host.recorded).run (withConfig (state, []) (some config)) queries).1.host =
        ((host.run state (blocks.flatten.map (·.1))).1, blocks.flatten.map (·.1)) ∧
      (host.run state (blocks.flatten.map (·.1))).2 = blocks.flatten := by
  refine ⟨?_, ?_, ?_⟩
  · intro plugin unconfigured
    have run := (withConfig_none_views host.recorded).run (state, []) queries
    rw [unconfigured.eq, run, Service.recorded_run, List.nil_append]
  · intro files directory given
    rw [create_eq]
    refine ⟨fun config => ?_, rfl⟩
    cases Config.loadAt files (Config.pathFor directory given) <;> simp [withConfig, config?, Except.toOption]
  · intro config
    obtain ⟨blocks, conducts, asked⟩ := run_conducts host.recorded (withConfig (state, []) (some config)) queries
    have direct := asked.symm.trans (Service.recorded_run host state [] _)
    rw [List.nil_append, Prod.mk.injEq] at direct
    exact ⟨blocks, conducts, direct.1, direct.2.symm⟩

end Plugin

end StyleTokens
