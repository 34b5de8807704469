import Cascade.Memory
import Cascade.Reduction
import Cascade.Stage.Registry
import Cascade.Suppression.Extract

/-!
# Serving requests

A pipeline takes the tree of a request through its stages in order.  A stage
first consults its cache; if that holds no outcome, the stage before it is
resolved in the same way, and its outcome is worked on.  Failures end a
resolution and leave nothing behind in the caches of the stages that failed.

A session is what changes while a pipeline serves requests: the caches, and the
state that factories, constructors and handlers share.
-/

namespace Cascade

/-- A pipeline.  Without caching, every resolution computes all of its stages. -/
structure Pipeline (σ : Type) where
  registry : Registry σ
  catalog : Catalog σ
  cacheEnabled : Bool := true

/-- The caches of a pipeline and the state of its visitors. -/
structure Session (σ : Type) where
  memory : Memory
  state : σ

/-- What a stage works on: a tree, and what earlier stages reported. -/
structure Material where
  tree : Node
  diagnostics : List Diagnostic := []
  dependencies : List String := []

namespace Request

/-- What the first stage works on. -/
def material (request : Request) : Material :=
  { tree := request.tree }

end Request

namespace Outcome

/-- What the stage behind this outcome works on. -/
def material (outcome : Outcome) : Material :=
  ⟨outcome.tree, outcome.diagnostics, outcome.dependencies⟩

end Outcome

namespace Pipeline

variable {σ : Type}

/-- A session with empty caches. -/
def newSession (pipeline : Pipeline σ) (state : σ) : Session σ :=
  ⟨.ofStages pipeline.registry.stageIds, state⟩

/-- The diagnostics with which the stage at an index begins: the first one warns
about unknown options. -/
def openingDiagnostics (pipeline : Pipeline σ) (request : Request) (index : Nat)
    (stage : String) : List Diagnostic :=
  if index = 0 then pipeline.registry.optionWarnings stage request.options else []

/-- The outcome of a stage on its material: the tree reduced by the hooks and the
stage's visitors, and the suppressions of the tree as it came in. -/
def runStage (pipeline : Pipeline σ) (request : Request)
    (index : Fin pipeline.registry.size) (material : Material) (state : σ) :
    Except Failure Outcome × σ :=
  let stage := pipeline.registry.stage index
  match stage.factory request.project request.options state with
  | (specs, state) =>
      match Spec.resolveAll pipeline.catalog stage.id specs state with
      | (.error failure, state) => (.error failure, state)
      | (.ok visitors, state) =>
          let pass : Pass σ :=
            ⟨stage.id, request.project, request.options, pipeline.registry.hooks ++ visitors⟩
          let opening := pipeline.openingDiagnostics request index stage.id
          match pass.reduce material.tree ⟨opening.toArray, [], state⟩ with
          | (.error failure, ledger) => (.error failure, ledger.state)
          | (.ok reduced, ledger) =>
              let extraction := material.tree.extraction
              let outcome : Outcome :=
                { tree := reduced
                  suppressions := extraction.suppressions
                  diagnostics := material.diagnostics ++
                    (ledger.diagnostics.toList ++ extraction.diagnostics)
                  dependencies := ledger.dependencies.foldl addNew material.dependencies }
              (.ok outcome, ledger.state)

/-- Runs a computation for the stage at an index unless the stage's cache holds
its outcome.  A stage without a cache computes every time. -/
def throughCache (pipeline : Pipeline σ) (index : Fin pipeline.registry.size)
    (fingerprint : Fingerprint) (compute : Session σ → Except Failure Outcome × Session σ)
    (session : Session σ) : Except Failure Outcome × Session σ :=
  if pipeline.cacheEnabled then
    match session.memory.cache? index with
    | none => compute session
    | some cache =>
        let key := fingerprint.inStage (pipeline.registry.stage index).id
        match cache.get key with
        | (some outcome, cache) =>
            (.ok outcome, { session with memory := session.memory.setCache index cache })
        | (none, cache) =>
            match cache.fetch key with
            | (.filled outcome, cache) =>
                (.ok outcome, { session with memory := session.memory.setCache index cache })
            | (.foreign, cache) =>
                compute { session with memory := session.memory.setCache index cache }
            | (.vacant, cache) =>
                match compute { session with memory := session.memory.setCache index cache } with
                | (.error failure, session) => (.error failure, session)
                | (.ok outcome, session) =>
                    match session.memory.cache? index with
                    | none => (.ok outcome, session)
                    | some cache =>
                        match cache.fill fingerprint outcome with
                        | (held, cache) =>
                            (.ok held,
                              { session with memory := session.memory.setCache index cache })
  else compute session

/-- Resolves a request up to the stage at an index. -/
def outcomeAt (pipeline : Pipeline σ) (request : Request) (fingerprint : Fingerprint) :
    (index : Nat) → index < pipeline.registry.size → Session σ →
      Except Failure Outcome × Session σ
  | 0, inRange, session =>
      pipeline.throughCache ⟨0, inRange⟩ fingerprint (fun session =>
        match pipeline.runStage request ⟨0, inRange⟩ request.material session.state with
        | (answer, state) => (answer, { session with state })) session
  | index + 1, inRange, session =>
      pipeline.throughCache ⟨index + 1, inRange⟩ fingerprint (fun session =>
        match pipeline.outcomeAt request fingerprint index (Nat.lt_of_succ_lt inRange)
            session with
        | (.error failure, session) => (.error failure, session)
        | (.ok previous, session) =>
            match pipeline.runStage request ⟨index + 1, inRange⟩ previous.material
                session.state with
            | (answer, state) => (answer, { session with state })) session

/-- Serves a request. -/
def serve (pipeline : Pipeline σ) (request : Request) (session : Session σ) :
    Except Failure Outcome × Session σ :=
  match pipeline.registry.target request.stage with
  | .error failure => (.error failure, session)
  | .ok target =>
      pipeline.outcomeAt request request.fingerprint target target.isLt session

/-- Serves requests one after another. -/
def serveAll (pipeline : Pipeline σ) :
    List Request → Session σ → List (Except Failure Outcome) × Session σ
  | [], session => ([], session)
  | request :: rest, session =>
      match pipeline.serve request session with
      | (answer, session) =>
          match pipeline.serveAll rest session with
          | (answers, session) => (answer :: answers, session)

/-- Resolves a request up to each of the given stages in turn, until one
fails. -/
def outcomesAt (pipeline : Pipeline σ) (request : Request) (fingerprint : Fingerprint) :
    List (Fin pipeline.registry.size) → Session σ →
      Except Failure (List (String × Outcome)) × Session σ
  | [], session => (.ok [], session)
  | index :: rest, session =>
      match pipeline.outcomeAt request fingerprint index index.isLt session with
      | (.error failure, session) => (.error failure, session)
      | (.ok outcome, session) =>
          match pipeline.outcomesAt request fingerprint rest session with
          | (.error failure, session) => (.error failure, session)
          | (.ok outcomes, session) =>
              (.ok (((pipeline.registry.stage index).id, outcome) :: outcomes), session)

/-- The stages up to and including a target, in order. -/
def stagesUpTo (pipeline : Pipeline σ) (target : Fin pipeline.registry.size) :
    List (Fin pipeline.registry.size) :=
  (List.finRange pipeline.registry.size).take (target + 1)

/-- The outcomes of every stage up to the one that the request asks for.  The
target is resolved first, which fills the caches for the others. -/
def serveChain (pipeline : Pipeline σ) (request : Request) (session : Session σ) :
    Except Failure (List (String × Outcome)) × Session σ :=
  match pipeline.registry.target request.stage with
  | .error failure => (.error failure, session)
  | .ok target =>
      let fingerprint := request.fingerprint
      match pipeline.outcomeAt request fingerprint target target.isLt session with
      | (.error failure, session) => (.error failure, session)
      | (.ok _, session) =>
          pipeline.outcomesAt request fingerprint (pipeline.stagesUpTo target) session

/-- The description of a pipeline in a session. -/
def description (pipeline : Pipeline σ) (session : Session σ) : String :=
  let enabled := if pipeline.cacheEnabled then "true" else "false"
  "TransformPipeline \x7b registry: " ++ pipeline.registry.description ++ ", catalog: " ++
    pipeline.catalog.description ++ ", settings: PipelineSettings \x7b cache_enabled: " ++
      enabled ++ " \x7d, cached_results: " ++ Json.natText session.memory.size ++ " \x7d"

end Pipeline

namespace Session

variable {σ : Type}

/-- Drops every outcome that depends on `dependency`, and answers how many there
were. -/
def forget (session : Session σ) (dependency : String) : Nat × Session σ :=
  match session.memory.forget dependency with
  | (dropped, memory) => (dropped, { session with memory })

/-- Drops every outcome. -/
def clear (session : Session σ) : Session σ :=
  { session with memory := session.memory.clear }

end Session

end Cascade
