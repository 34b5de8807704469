import Cascade.Proofs.Courses
import Cascade.Proofs.Resumption
import Cascade.Visitor.Sample

/-!
# What accumulates along the stages

Every stage hands on what the stages before it reported, with its own reports
behind, and the dependencies that were not recorded before.  If nothing comes from
a cache, a request is answered what the courses of all stages add up to: a warning
for each option that no stage knows, then for each stage what its handlers reported,
call by call, and what is wrong with the directives in the tree that came in.
-/

namespace Cascade

/-! ## Options that no stage knows -/

/-- The keys are those of the given options that no stage knows, in order. -/
structure Registry.Unrecognized {σ : Type} (registry : Registry σ) (options : Options)
    (keys : List String) : Prop where
  ordered : keys.Pairwise (· < ·)
  members : ∀ key, key ∈ keys ↔ ∃ known, registry.knownOptions = some known ∧
    options.contains key = true ∧ known.contains key = false

theorem Dict.mem_keys {α : Type} {dict : Dict α} {key : String} :
    key ∈ dict.keys ↔ dict.contains key = true := by
  rw [keys, contains, get?, List.lookup_isSome_iff, List.mem_map]
  constructor
  · rintro ⟨entry, member, rfl⟩
    exact ⟨entry, member, beq_self_eq_true _⟩
  · rintro ⟨entry, member, same⟩
    exact ⟨entry, member, (eq_of_beq same).symm⟩

theorem Dict.ordered_keys {α : Type} (dict : Dict α) : dict.keys.Pairwise (· < ·) :=
  List.pairwise_map.mpr dict.sorted

theorem Registry.optionWarnings_eq {σ : Type} (registry : Registry σ) (stage : String)
    (options : Options) :
    ∃ keys, registry.Unrecognized options keys ∧
      registry.optionWarnings stage options = keys.map (unknownOptionWarning stage) := by
  unfold optionWarnings
  cases declared : registry.knownOptions with
  | none =>
      refine ⟨[], ⟨.nil, fun key => ?_⟩, rfl⟩
      simp [declared]
  | some known =>
      refine ⟨options.keys.filter fun key => !known.contains key, ⟨?_, fun key => ?_⟩, rfl⟩
      · exact options.ordered_keys.filter _
      · simp [declared, List.mem_filter, Dict.mem_keys]

namespace Pipeline

variable {σ : Type} {pipeline : Pipeline σ} {request : Request}

/-! ## Resolutions that no cache helps -/

/-- No outcome for the request comes from a cache: caching is off, or no stage holds
one. -/
def Unaided (pipeline : Pipeline σ) (request : Request) (session : Session σ) : Prop :=
  pipeline.cacheEnabled = false ∨
    pipeline.Fits session ∧ ∀ index, session.memory.held? index request.fingerprint = none

theorem unaided_newSession (pipeline : Pipeline σ) (request : Request) (state : σ) :
    pipeline.Unaided request (pipeline.newSession state) :=
  .inr ⟨Memory.stages_ofStages _, fun index => Memory.held?_ofStages _ index _⟩

/-- Where nothing is held, a resolution runs every stage afresh. -/
theorem Resolves.eq_freshAt {fingerprint : Fingerprint} {index : Nat} {session after : Session σ}
    {answer : Except Failure Outcome}
    (resolves : pipeline.Resolves request fingerprint index session answer after)
    (vacant : ∀ other, session.memory.held? other fingerprint = none)
    (inRange : index < pipeline.registry.size) :
    pipeline.freshAt request index inRange session.state = (answer, after.state) := by
  rw [← resumeAt_of_vacant vacant]
  exact resolves.eq_resumeAt (fun _ => rfl) inRange

theorem Unaided.eq_freshAt {session : Session σ} (unaided : pipeline.Unaided request session)
    (index : Nat) (inRange : index < pipeline.registry.size) :
    pipeline.freshAt request index inRange session.state =
      ((pipeline.outcomeAt request request.fingerprint index inRange session).1,
        (pipeline.outcomeAt request request.fingerprint index inRange session).2.state) := by
  rcases unaided with disabled | ⟨fits, vacant⟩
  · rw [outcomeAt_of_disabled disabled]
    rfl
  · cases enabled : pipeline.cacheEnabled with
    | false =>
        rw [outcomeAt_of_disabled enabled]
        rfl
    | true =>
        exact (outcomeAt_resolves request request.fingerprint enabled inRange fits).eq_freshAt
          vacant inRange

/-! ## What courses add up to -/

/-- The tree that comes into the stage at an index: the tree of the request, or the
tree of what the stage before is answered. -/
def Enters (pipeline : Pipeline σ) (request : Request) (session : Session σ) :
    Nat → Node → Prop
  | 0, tree => tree = request.tree
  | index + 1, tree => ∃ inRange outcome,
      (pipeline.outcomeAt request request.fingerprint index inRange session).1 = .ok outcome ∧
        tree = outcome.tree

end Pipeline

/-- The outcome is what the courses of all stages add up to, behind the diagnostics
with which the first stage began. -/
structure Outcome.AddsUp (outcome : Outcome) (opening : List Diagnostic) (earlier : List Course)
    (last : Course) : Prop where
  tree : outcome.tree = last.left
  suppressions : outcome.suppressions = last.entered.extraction.suppressions
  diagnostics : outcome.diagnostics = opening ++ (earlier ++ [last]).flatMap Course.diagnostics
  dependencies :
    outcome.dependencies = ((earlier ++ [last]).flatMap Course.dependencies).eraseDups

namespace Outcome.AddsUp

variable {outcome : Outcome} {opening : List Diagnostic} {earlier : List Course} {last : Course}

theorem nodup (addsUp : outcome.AddsUp opening earlier last) : outcome.dependencies.Nodup := by
  rw [addsUp.dependencies, ← foldl_addNew_nil]
  exact nodup_foldl_addNew List.nodup_nil _

/-- If the diagnostics have origins with which the first stage began, then all
have. -/
theorem attributed (addsUp : outcome.AddsUp opening earlier last)
    (opened : ∀ diagnostic ∈ opening, diagnostic.origin.isSome = true) :
    ∀ diagnostic ∈ outcome.diagnostics, diagnostic.origin.isSome = true := by
  intro diagnostic member
  rw [addsUp.diagnostics] at member
  rcases List.mem_append.mp member with early | inCourses
  · exact opened diagnostic early
  · obtain ⟨course, _, inCourse⟩ := List.mem_flatMap.mp inCourses
    exact course.attributed_diagnostics diagnostic inCourse

end Outcome.AddsUp

namespace Pipeline

variable {σ : Type} {pipeline : Pipeline σ} {request : Request} {session : Session σ}

/-- The warnings about options with which the first stage begins. -/
def optionWarnings (pipeline : Pipeline σ) (request : Request)
    (nonempty : 0 < pipeline.registry.size) : List Diagnostic :=
  pipeline.registry.optionWarnings (pipeline.registry.stage ⟨0, nonempty⟩).id request.options

/-- Every course is on the tree that comes into its stage. -/
def EachEnters (pipeline : Pipeline σ) (request : Request) (session : Session σ)
    (courses : List Course) : Prop :=
  ∀ index course, courses[index]? = some course →
    pipeline.Enters request session index course.entered

theorem EachEnters.append {earlier : List Course} {last : Course}
    (each : pipeline.EachEnters request session earlier)
    (enters : pipeline.Enters request session earlier.length last.entered) :
    pipeline.EachEnters request session (earlier ++ [last]) := by
  intro index course found
  by_cases early : index < earlier.length
  · rw [List.getElem?_append_left early] at found
    exact each index course found
  · rw [List.getElem?_append_right (Nat.le_of_not_lt early), List.getElem?_singleton] at found
    by_cases here : index - earlier.length = 0
    · rw [if_pos here] at found
      cases found
      have place : index = earlier.length := by omega
      exact place ▸ enters
    · rw [if_neg here] at found
      exact nomatch found

/-- If every stage runs afresh, then an outcome is what the courses of the stages add
up to, each on the tree that comes in. -/
theorem courses_of_freshAt
    (afresh : ∀ index inRange, pipeline.freshAt request index inRange session.state =
      ((pipeline.outcomeAt request request.fingerprint index inRange session).1,
        (pipeline.outcomeAt request request.fingerprint index inRange session).2.state))
    (index : Nat) (inRange : index < pipeline.registry.size) {outcome : Outcome} {after : σ}
    (fresh : pipeline.freshAt request index inRange session.state = (.ok outcome, after)) :
    ∃ earlier last, earlier.length = index ∧
      pipeline.courses request (index + 1) inRange session.state =
        (.ok (earlier ++ [last]), after) ∧
      pipeline.EachEnters request session (earlier ++ [last]) ∧
      outcome.AddsUp (pipeline.optionWarnings request (Nat.zero_lt_of_lt inRange)) earlier
        last := by
  induction index generalizing outcome after with
  | zero =>
      obtain ⟨last, next, entered, rfl⟩ := course_of_runStage fresh
      have none : pipeline.EachEnters request session [] := by simp [EachEnters]
      refine ⟨[], last, rfl, courses_succ rfl next, none.append entered, rfl, rfl, ?_, ?_⟩
      · simp [Request.material, openingDiagnostics, optionWarnings]
      · simp [Request.material, foldl_addNew_nil]
  | succ index inductionHypothesis =>
      have inRangeBelow := Nat.lt_of_succ_lt inRange
      cases below : pipeline.freshAt request index inRangeBelow session.state with
      | mk answer between =>
          rw [freshAt, below] at fresh
          cases answer with
          | error failure => cases fresh
          | ok previous =>
              obtain ⟨earlier, last, length, before, each, addsUp⟩ := inductionHypothesis _ below
              obtain ⟨course, next, entered, rfl⟩ := course_of_runStage fresh
              -- The next course is on the tree of what the stage before is answered.
              have comesIn : previous.material.tree =
                  treeBehind request.tree (earlier ++ [last]) :=
                addsUp.tree.trans (treeBehind_append _ _ _).symm
              have enters : pipeline.Enters request session (earlier ++ [last]).length
                  course.entered := by
                have answered := congrArg Prod.fst ((afresh index inRangeBelow).symm.trans below)
                rw [List.length_append, length]
                exact ⟨inRangeBelow, previous, answered, entered⟩
              refine ⟨earlier ++ [last], course, ?_, courses_succ before (comesIn ▸ next),
                each.append enters, rfl, rfl, ?_, ?_⟩
              · simp [length]
              · simp [Outcome.material, openingDiagnostics, addsUp.diagnostics]
              · have sameDependencies : previous.material.dependencies =
                    ((earlier ++ [last]).flatMap Course.dependencies).foldl addNew [] :=
                  addsUp.dependencies.trans (foldl_addNew_nil _).symm
                simp only
                rw [sameDependencies, ← List.foldl_append, foldl_addNew_nil]
                simp

/-- What a request is answered if no cache helps.  The stages up to its target have
courses, each on the tree of the request or of what the stage before is answered.
The diagnostics are a warning for every option that no stage knows, in key order,
then for each course what its handlers reported, call by call, and what is wrong
with the directives in the tree that came in; each of them has an origin.  The
dependencies are all that the handlers recorded, in order and once each.  The
suppressions are those of the tree that came into the last stage. -/
theorem serve_adds_up (pipeline : Pipeline σ) (request : Request) (session : Session σ)
    (unaided : pipeline.Unaided request session) {index : Fin pipeline.registry.size}
    (asked : pipeline.registry.target request.stage = .ok index) {outcome : Outcome}
    {after : Session σ} (answered : pipeline.serve request session = (.ok outcome, after)) :
    ∃ keys earlier last,
      pipeline.registry.Unrecognized request.options keys ∧
      earlier.length = index.1 ∧
      pipeline.courses request (index + 1) index.isLt session.state =
        (.ok (earlier ++ [last]), after.state) ∧
      pipeline.EachEnters request session (earlier ++ [last]) ∧
      outcome.tree = last.left ∧
      outcome.diagnostics =
        keys.map (Registry.unknownOptionWarning
          (pipeline.registry.stage ⟨0, Nat.zero_lt_of_lt index.isLt⟩).id) ++
        (earlier ++ [last]).flatMap Course.diagnostics ∧
      (∀ diagnostic ∈ outcome.diagnostics, diagnostic.origin.isSome = true) ∧
      outcome.dependencies = ((earlier ++ [last]).flatMap Course.dependencies).eraseDups ∧
      outcome.dependencies.Nodup ∧
      outcome.suppressions = last.entered.extraction.suppressions := by
  have resolved : pipeline.outcomeAt request request.fingerprint index index.isLt session =
      (.ok outcome, after) := by
    rw [← answered, serve, asked]
  have fresh : pipeline.freshAt request index index.isLt session.state =
      (.ok outcome, after.state) := by
    rw [unaided.eq_freshAt, resolved]
  obtain ⟨earlier, last, length, courses, each, addsUp⟩ :=
    courses_of_freshAt unaided.eq_freshAt index.1 index.isLt fresh
  obtain ⟨keys, unrecognized, warned⟩ := pipeline.registry.optionWarnings_eq
    (pipeline.registry.stage ⟨0, Nat.zero_lt_of_lt index.isLt⟩).id request.options
  have opened : ∀ diagnostic ∈
      pipeline.optionWarnings request (Nat.zero_lt_of_lt index.isLt),
        diagnostic.origin.isSome = true := by
    rw [optionWarnings, warned]
    intro diagnostic member
    obtain ⟨key, _, rfl⟩ := List.mem_map.mp member
    rfl
  have diagnostics := addsUp.diagnostics
  rw [optionWarnings, warned] at diagnostics
  exact ⟨keys, earlier, last, unrecognized, length, courses, each, addsUp.tree, diagnostics,
    addsUp.attributed opened, addsUp.dependencies, addsUp.nodup, addsUp.suppressions⟩

/-! ## Reports of two stages -/

/-- A pipeline without caching that knows no options.  Both of its stages depend on
`base.toml`, and the second one reports a diagnostic. -/
def audited : Pipeline Unit where
  registry :=
    { stages := [⟨"normalize", .fixed [.ready (.dependency (.fixed "base.toml"))]⟩,
        ⟨"lint", .fixed [.ready (.dependency (.fixed "base.toml")),
          .ready (.emitting "lint" { category := "lint", message := "found" })]⟩]
      primary := ⟨1, Nat.one_lt_two⟩
      hooks := []
      knownOptions := some Dict.empty
      distinct := by decide }
  catalog := Dict.empty
  cacheEnabled := false

/-- A request for an empty program, with an option. -/
def auditRequest : Request where
  tree := Node.program []
  options := Dict.empty.insert "strict" (.bool true)

/-- The outcome of the first stage. -/
def auditedFirst : Outcome :=
  auditRequest.material.outcome (Node.program [])
    (⟨#[Registry.unknownOptionWarning "normalize" "strict"], ["base.toml"], ()⟩ : Ledger Unit)

/-- The outcome of the second stage. -/
def auditedSecond : Outcome :=
  auditedFirst.material.outcome (Node.program [])
    (⟨#[{ category := "lint", message := "found", origin := some (.ofVisitor "lint" "lint") }],
      ["base.toml"], ()⟩ : Ledger Unit)

theorem audited_first (inRange : 0 < audited.registry.size) :
    audited.runStage auditRequest ⟨0, inRange⟩ auditRequest.material () = (.ok auditedFirst, ()) :=
  runStage_of_reduced rfl (Pass.reduce_of_program (Pass.traverse_of_childless rfl rfl) rfl)

theorem audited_second (inRange : 1 < audited.registry.size) :
    audited.runStage auditRequest ⟨1, inRange⟩ auditedFirst.material () =
      (.ok auditedSecond, ()) :=
  runStage_of_reduced rfl (Pass.reduce_of_program (Pass.traverse_of_childless rfl rfl) rfl)

theorem audited_serve :
    audited.serve auditRequest (audited.newSession ()) =
      (.ok auditedSecond, audited.newSession ()) := by
  have inRange : 1 < audited.registry.size := Nat.one_lt_two
  have fresh : audited.freshAt auditRequest 1 inRange () = (.ok auditedSecond, ()) := by
    rw [freshAt, freshAt, audited_first]
    exact audited_second inRange
  show audited.outcomeAt auditRequest auditRequest.fingerprint 1 inRange (audited.newSession ()) = _
  rw [outcomeAt_of_disabled rfl]
  show ((audited.freshAt auditRequest 1 inRange ()).1,
    (audited.newSession ()).withState (audited.freshAt auditRequest 1 inRange ()).2) = _
  rw [fresh]
  rfl

theorem extraction_program : (Node.program []).extraction = {} := by
  cbv

/-- The warning about the option stands before the report of the second stage, and
the dependency of both stages is listed once. -/
theorem serve_adds_up_warned :
    audited.Unaided auditRequest (audited.newSession ()) ∧
      audited.registry.target auditRequest.stage = .ok ⟨1, Nat.one_lt_two⟩ ∧
      audited.serve auditRequest (audited.newSession ()) =
        (.ok auditedSecond, audited.newSession ()) ∧
      auditedSecond.diagnostics.map Diagnostic.category = [Registry.unknownOption, "lint"] ∧
      (∀ diagnostic ∈ auditedSecond.diagnostics, diagnostic.origin.isSome = true) ∧
      auditedSecond.dependencies = ["base.toml"] ∧ auditedSecond.dependencies.Nodup := by
  have unaided := unaided_newSession audited auditRequest ()
  obtain ⟨_, _, _, _, _, _, _, _, _, attributed, _, nodup, _⟩ :=
    serve_adds_up audited auditRequest (audited.newSession ()) unaided rfl audited_serve
  refine ⟨unaided, rfl, audited_serve, ?_, attributed, rfl, nodup⟩
  simp [auditedSecond, auditedFirst, Material.outcome, Outcome.material, Request.material,
    auditRequest, extraction_program, Registry.unknownOptionWarning]

end Pipeline

end Cascade
