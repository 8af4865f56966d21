import StyleTokens.Service

namespace StyleTokens

variable {σ τ : Type}

-- A query together with the answer it got.
abbrev Exchange := Sigma Query.Answer

namespace Exchange

-- The items that were listed, in either form of a response. A query of another kind lists none.
def items : Exchange → List CompletionItem
  | ⟨.completions _ _ _, some (.array items)⟩ => items
  | ⟨.completions _ _ _, some (.list _ items)⟩ => items
  | _ => []

theorem items_completions (uri : Uri) (position : Text.Position) (context : Option CompletionContext)
    (answer : Option CompletionResponse) :
    items ⟨.completions uri position context, answer⟩ = answer.elim [] CompletionResponse.items := by
  rcases answer with _ | (items | ⟨isIncomplete, items⟩) <;> rfl

def isEnd : Exchange → Bool
  | ⟨.dispose, _⟩ => true
  | _ => false

theorem quiet (exchange : Exchange) (other : ∀ uri position context, exchange.1 ≠ .completions uri position context)
    (goesOn : exchange.1 ≠ .dispose) : exchange.items = [] ∧ exchange.isEnd = false := by
  obtain ⟨query, answer⟩ := exchange
  cases query with
  | completions uri position context => exact absurd rfl (other uri position context)
  | dispose => exact absurd rfl goesOn
  | _ => exact ⟨rfl, rfl⟩

end Exchange

def Outcome.mapState {α : Type} (view : τ → σ) (outcome : Outcome τ α) : Outcome σ α :=
  ⟨outcome.answer, view outcome.state, outcome.log⟩

namespace Service

theorem run_preserves {service : Service σ} {Holds : σ → Prop}
    (step : ∀ state query, Holds state → Holds (service.respond state query).state) {state : σ} (holds : Holds state)
    (queries : List Query) : Holds (service.run state queries).1 := by
  induction queries generalizing state with
  | nil => exact holds
  | cons query rest ih => exact ih (step state query holds)

-- Under the view the outer service is the inner one: what it keeps besides has no effect on its answers.
def Views (view : τ → σ) (outer : Service τ) (inner : Service σ) : Prop :=
  ∀ state query, inner.respond (view state) query = (outer.respond state query).mapState view

theorem Views.run {view : τ → σ} {outer : Service τ} {inner : Service σ} (views : Views view outer inner) (state : τ)
    (queries : List Query) :
    inner.run (view state) queries = (view (outer.run state queries).1, (outer.run state queries).2) := by
  induction queries generalizing state with
  | nil => rfl
  | cons query rest ih => simp only [Service.run, views state query, Outcome.mapState, ih]

-- The same service, writing down each query with its answer, the last one last.
def transcribed (service : Service σ) : Service (σ × List Exchange) where
  respond state query :=
    let outcome := service.respond state.1 query
    ⟨outcome.answer, (outcome.state, state.2 ++ [⟨query, outcome.answer⟩]), outcome.log⟩

theorem transcribed_views (service : Service σ) : Views Prod.fst service.transcribed service := fun _ _ => rfl

end Service

end StyleTokens
