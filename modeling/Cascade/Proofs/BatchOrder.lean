import Cascade.Proofs.CacheMap
import Cascade.Proofs.CacheTransparency
import Cascade.Proofs.Lookups

/-!
# The order of a batch

In a stateless pipeline whose fingerprints tell requests apart, a request leaves for
its fingerprint what the stages up to its target yield, and computes what was missing
of it.  Which of two requests finds it missing depends on their order, but not how
often it is computed in all, nor then how often it is looked up.
-/

namespace Cascade

/-! ## Accounts of caches -/

/-- What caches hold, and what they have counted. -/
@[ext]
structure Account where
  held : Holdings
  counts : Nat → Option Counts

/-- What a request asks of the caches: that they hold what the stages up to a target
yield for a fingerprint.  A stage that fails yields nothing. -/
structure Demand where
  fingerprint : Fingerprint
  target : Nat
  yields : Nat → Option Outcome

namespace Holdings

/-- What is held behind a demand. -/
def meet (holdings : Holdings) (demand : Demand) : Holdings :=
  fun index fingerprint =>
    if fingerprint = demand.fingerprint ∧ index ≤ demand.target then demand.yields index
    else holdings index fingerprint

/-- What two demands compute at a stage in all does not depend on their order. -/
theorem lacking_add_lacking (holdings : Holdings) {first second : Demand}
    (agree : first.fingerprint = second.fingerprint → first.yields = second.yields)
    (index : Nat) :
    holdings.lacking first.fingerprint first.target index +
        (holdings.meet first).lacking second.fingerprint second.target index =
      holdings.lacking second.fingerprint second.target index +
        (holdings.meet second).lacking first.fingerprint first.target index := by
  unfold lacking meet
  by_cases same : first.fingerprint = second.fingerprint
  · rw [same, agree same]
    -- A stage that is on the way to both is filled by the first demand that is met.
    by_cases inFirst : index ≤ first.target <;> by_cases inSecond : index ≤ second.target <;>
      simp [inFirst, inSecond]
  · simp only [same, Ne.symm same, false_and, if_false]
    exact Nat.add_comm _ _

/-- Nor does what they look up. -/
theorem lookups_add_lookups (holdings : Holdings) {first second : Demand}
    (agree : first.fingerprint = second.fingerprint → first.yields = second.yields)
    (index : Nat) :
    holdings.lookups first.fingerprint first.target index +
        (holdings.meet first).lookups second.fingerprint second.target index =
      holdings.lookups second.fingerprint second.target index +
        (holdings.meet second).lookups first.fingerprint first.target index := by
  have behind := holdings.lacking_add_lacking agree (index + 1)
  unfold lookups
  omega

theorem meet_comm (holdings : Holdings) {first second : Demand}
    (agree : first.fingerprint = second.fingerprint → first.yields = second.yields) :
    (holdings.meet first).meet second = (holdings.meet second).meet first := by
  funext index fingerprint
  unfold meet
  by_cases ofFirst : fingerprint = first.fingerprint ∧ index ≤ first.target
  · by_cases ofSecond : fingerprint = second.fingerprint ∧ index ≤ second.target
    · have same := agree (ofFirst.1.symm.trans ofSecond.1)
      simp only [if_pos ofFirst, if_pos ofSecond, same]
    · simp only [if_pos ofFirst, if_neg ofSecond]
  · simp only [if_neg ofFirst]

end Holdings

namespace Account

/-- The account behind a demand. -/
def meet (account : Account) (demand : Demand) : Account where
  held := account.held.meet demand
  counts index := (account.counts index).map fun counts =>
    counts.add (account.held.lookups demand.fingerprint demand.target index)
      (account.held.lacking demand.fingerprint demand.target index)

theorem meet_comm (account : Account) {first second : Demand}
    (agree : first.fingerprint = second.fingerprint → first.yields = second.yields) :
    (account.meet first).meet second = (account.meet second).meet first := by
  apply Account.ext
  · exact account.held.meet_comm agree
  · funext index
    simp only [meet, Option.map_map, Function.comp_def, Counts.add_add]
    rw [account.held.lookups_add_lookups agree, account.held.lacking_add_lacking agree]

/-- Demands that agree wherever their fingerprints do may be met in any order. -/
theorem foldl_meet_perm (account : Account) {demands order : List Demand}
    (perm : order.Perm demands)
    (agree : ∀ first ∈ order, ∀ second ∈ order, first.fingerprint = second.fingerprint →
      first.yields = second.yields) :
    order.foldl meet account = demands.foldl meet account :=
  perm.foldl_eq' (fun first member second memberSecond account =>
    account.meet_comm (agree first member second memberSecond)) account

end Account

/-- Slots that hold the same are as many. -/
theorem Slots.filled_congr {first second : Slots} (distinct : first.Distinct)
    (distinctSecond : second.Distinct)
    (same : ∀ fingerprint, first.held? fingerprint = second.held? fingerprint) :
    first.filled = second.filled := by
  have perm : ((first.chosen fun _ _ => true).map Prod.fst).Perm
      ((second.chosen fun _ _ => true).map Prod.fst) := by
    apply (List.perm_ext_iff_of_nodup (distinct.chosen _) (distinctSecond.chosen _)).mpr
    intro fingerprint
    rw [mem_keys_chosen distinct, mem_keys_chosen distinctSecond, same]
  rw [filled_eq_length_chosen, filled_eq_length_chosen]
  simpa using perm.length_eq

/-- Caches of a stage that hold the same and have counted the same have the same
figures. -/
theorem Cache.figures_congr {cache other : Cache} (named : cache.stage = other.stage)
    (counts : cache.counts = other.counts)
    (held : ∀ fingerprint, cache.slots.held? fingerprint = other.slots.held? fingerprint) :
    cache.figures = other.figures := by
  have entries : cache.size = other.size := Slots.filled_congr cache.distinct other.distinct held
  have lookups := congrArg Counts.lookups counts
  have misses : cache.misses = other.misses := congrArg Counts.misses counts
  have computations : cache.computations = other.computations :=
    congrArg Counts.computations counts
  have hits : cache.hits = other.hits := by
    simp only [Cache.counts] at lookups
    omega
  rw [figures, figures, named, entries, hits, misses, computations]

namespace Memory

/-- The account of caches. -/
def account (memory : Memory) : Account :=
  ⟨memory.held?, memory.counts?⟩

/-- Caches of the same stages with the same accounts have the same figures. -/
theorem figures_of_account {first second : Memory} (stages : first.stages = second.stages)
    (same : first.account = second.account) : first.figures = second.figures := by
  have length : first.caches.length = second.caches.length := by
    simpa [Memory.stages] using congrArg List.length stages
  apply List.ext_getElem
  · simpa [figures] using length
  · intro index inFirst inSecond
    have inFirst : index < first.caches.length := by simpa [figures] using inFirst
    have inSecond : index < second.caches.length := length ▸ inFirst
    have here : first.cache? index = some first.caches[index] := List.getElem?_eq_getElem inFirst
    have there : second.cache? index = some second.caches[index] :=
      List.getElem?_eq_getElem inSecond
    have counts : first.counts? index = second.counts? index :=
      congrFun (congrArg Account.counts same) index
    have held : first.held? index = second.held? index :=
      congrFun (congrArg Account.held same) index
    have names := congrArg (·[index]?) stages
    simp only [Memory.stages, List.getElem?_map, List.getElem?_eq_getElem inFirst,
      List.getElem?_eq_getElem inSecond, Option.map_some, Option.some.injEq] at names
    simp only [counts?, here, there, Option.map_some, Option.some.injEq] at counts
    simp only [figures, List.getElem_map]
    refine Cache.figures_congr names counts fun fingerprint => ?_
    simpa [held?, here, there] using congrFun held fingerprint

end Memory

namespace Pipeline

variable {σ : Type} {pipeline : Pipeline σ} {requests : List Request} {request : Request}

/-! ## What a resolution leaves -/

/-- What the stage at an index yields for a request if all stages are run afresh. -/
def yieldAt (pipeline : Pipeline σ) (request : Request) (state : σ) (index : Nat) :
    Option Outcome :=
  if inRange : index < pipeline.registry.size then
    (pipeline.freshAt request index inRange state).1.toOption
  else none

theorem yieldAt_of_inRange {index : Nat} (inRange : index < pipeline.registry.size) (state : σ) :
    pipeline.yieldAt request state index =
      (pipeline.freshAt request index inRange state).1.toOption :=
  dif_pos inRange

theorem Stateless.yieldAt (stateless : pipeline.Stateless) {first second : Request}
    (same : first.SameContent second) (state : σ) :
    pipeline.yieldAt first state = pipeline.yieldAt second state := by
  funext index
  unfold Pipeline.yieldAt
  split
  next inRange => rw [stateless.freshAt same index inRange state state]
  next => rfl

/-- What is held in sound caches is what its stage yields. -/
theorem Sound.yieldAt {memory : Memory} (sound : pipeline.Sound requests memory)
    (stateless : pipeline.Stateless) (apart : Request.ToldApart requests)
    (member : request ∈ requests) {index : Nat} {outcome : Outcome}
    (held : memory.held? index request.fingerprint = some outcome)
    (inRange : index < pipeline.registry.size) (state : σ) :
    pipeline.yieldAt request state index = some outcome := by
  obtain ⟨other, memberOther, sameFingerprint, answers⟩ := sound _ _ _ held
  have same := apart request member other memberOther sameFingerprint.symm
  rw [stateless.yieldAt same, yieldAt_of_inRange inRange, answers]
  rfl

/-- Behind a resolution its target holds the outcome that was answered, and nothing if
it failed. -/
theorem Resolves.held_target {fingerprint : Fingerprint} {index : Nat}
    {session after : Session σ} {answer : Except Failure Outcome}
    (resolves : pipeline.Resolves request fingerprint index session answer after)
    (fits : pipeline.Fits session) :
    after.memory.held? index fingerprint = answer.toOption := by
  cases answer with
  | ok outcome => exact resolves.holds fits rfl
  | error failure =>
      cases resolves with
      | failedFirst _ missing _ => exact (Memory.held?_miss _ 0 0 fingerprint _).trans missing
      | failedBelow missing below => exact below.missing_of_below missing
      | failed _ missing below _ => exact below.missing_of_below missing

section Yields

variable {session after : Session σ} {answer : Except Failure Outcome} {index : Nat}

theorem Resolves.yields_target (stateless : pipeline.Stateless)
    (apart : Request.ToldApart requests) (member : request ∈ requests)
    (resolves : pipeline.Resolves request request.fingerprint index session answer after)
    (fits : pipeline.Fits session) (sound : pipeline.Sound requests session.memory)
    (inRange : index < pipeline.registry.size) (state : σ) :
    after.memory.held? index request.fingerprint = pipeline.yieldAt request state index := by
  have answered := (resolves.afresh stateless apart member sound).1 inRange state
  rw [resolves.held_target fits, yieldAt_of_inRange inRange, answered]

/-- A resolution that does not find its target held resolves the stage before, and only
its target is held differently behind it. -/
theorem Resolves.courseBelow {fingerprint : Fingerprint}
    (resolves : pipeline.Resolves request fingerprint (index + 1) session answer after)
    (missing : session.memory.held? (index + 1) fingerprint = none) :
    ∃ answerBelow between,
      pipeline.Resolves request fingerprint index (session.miss (index + 1) fingerprint)
        answerBelow between ∧
      ∀ other ≤ index,
        after.memory.held? other fingerprint = between.memory.held? other fingerprint := by
  cases resolves with
  | found held => exact nomatch missing.symm.trans held
  | failedBelow _ below => exact ⟨_, _, below, fun _ _ => rfl⟩
  | failed _ _ below _ => exact ⟨_, _, below, fun _ _ => rfl⟩
  | computed _ _ below _ =>
      refine ⟨_, _, below, fun other inRange => ?_⟩
      exact Memory.held?_store_of_ne _ (.inl (Nat.ne_of_lt (Nat.lt_succ_of_le inRange)))

/-- Behind a resolution every stage up to its target holds what it yields. -/
theorem Resolves.yields (stateless : pipeline.Stateless) (apart : Request.ToldApart requests)
    (member : request ∈ requests)
    (resolves : pipeline.Resolves request request.fingerprint index session answer after)
    (inOrder : pipeline.InOrder session) (sound : pipeline.Sound requests session.memory)
    (inRange : index < pipeline.registry.size) (state : σ) {other : Nat}
    (onTheWay : other ≤ index) :
    after.memory.held? other request.fingerprint = pipeline.yieldAt request state other := by
  induction index generalizing session after answer with
  | zero =>
      cases Nat.le_zero.mp onTheWay
      exact resolves.yields_target stateless apart member inOrder.1 sound inRange state
  | succ index inductionHypothesis =>
      rcases Nat.lt_or_eq_of_le onTheWay with earlier | rfl
      · cases held : session.memory.held? (index + 1) request.fingerprint with
        | some outcome =>
            obtain ⟨source, heldBefore⟩ := inOrder.2.held_before onTheWay held
            have otherInRange := Nat.lt_of_le_of_lt onTheWay inRange
            rw [resolves.keeps heldBefore,
              sound.yieldAt stateless apart member heldBefore otherInRange]
        | none =>
            obtain ⟨_, _, below, same⟩ := resolves.courseBelow held
            rw [same other (Nat.le_of_lt_succ earlier)]
            exact inductionHypothesis below ⟨inOrder.1.miss _ _, inOrder.2.miss _ _⟩
              (sound.miss _ _) (Nat.lt_of_succ_lt inRange) (Nat.le_of_lt_succ earlier)
      · exact resolves.yields_target stateless apart member inOrder.1 sound inRange state

end Yields

/-! ## Requests as demands -/

/-- What a request asks of the caches, unless it asks for a stage that is not
registered. -/
def demand? (pipeline : Pipeline σ) (state : σ) (request : Request) : Option Demand :=
  match pipeline.registry.target request.stage with
  | .error _ => none
  | .ok target => some ⟨request.fingerprint, target, pipeline.yieldAt request state⟩

/-- Serving a request meets its demand. -/
theorem serve_account (enabled : pipeline.cacheEnabled = true) (stateless : pipeline.Stateless)
    (apart : Request.ToldApart requests) (member : request ∈ requests) {session : Session σ}
    (inOrder : pipeline.InOrder session) (sound : pipeline.Sound requests session.memory)
    (state : σ) :
    (pipeline.serve request session).2.memory.account =
      (pipeline.demand? state request).elim session.memory.account session.memory.account.meet := by
  unfold demand?
  cases asked : pipeline.registry.target request.stage with
  | error failure =>
      rw [serve_of_unknown asked]
      rfl
  | ok target =>
      have resolves := outcomeAt_resolves request request.fingerprint enabled target.isLt inOrder.1
      rw [serve_of_target asked]
      apply Account.ext
      · funext index fingerprint
        simp only [Option.elim_some, Account.meet, Holdings.meet]
        split
        next onTheWay =>
          obtain ⟨rfl, inRange⟩ := onTheWay
          exact resolves.yields stateless apart member inOrder sound target.isLt state inRange
        next elsewhere => exact resolves.held_elsewhere inOrder.1 elsewhere
      · funext index
        exact resolves.counts inOrder index

/-- A batch meets the demands of its requests one after another. -/
theorem serveAll_account (enabled : pipeline.cacheEnabled = true)
    (stateless : pipeline.Stateless) (apart : Request.ToldApart requests) {batch : List Request}
    (subset : batch ⊆ requests) {session : Session σ} (inOrder : pipeline.InOrder session)
    (sound : pipeline.Sound requests session.memory) (state : σ) :
    (pipeline.serveAll batch session).2.memory.account =
      (batch.filterMap (pipeline.demand? state)).foldl Account.meet session.memory.account := by
  induction batch generalizing session with
  | nil => rfl
  | cons request rest inductionHypothesis =>
      have member : request ∈ requests := subset List.mem_cons_self
      have subsetRest : rest ⊆ requests := fun other there =>
        subset (List.mem_cons_of_mem request there)
      have transparent := (transparent_of_enabled enabled stateless apart).mono
        (List.cons_subset.mpr ⟨member, List.nil_subset _⟩)
      have inOrderBehind : pipeline.InOrder (pipeline.serve request session).2 :=
        serve_keeps (resolving_inOrder [request]) inOrder
      have faithfulBehind : pipeline.Faithful requests (pipeline.serve request session).2 :=
        serve_keeps transparent.keeps ⟨inOrder.1, sound⟩
      have first := serve_account enabled stateless apart member inOrder sound state
      have others := inductionHypothesis subsetRest inOrderBehind faithfulBehind.2
      refine others.trans ?_
      rw [first]
      cases demanded : pipeline.demand? state request with
      | none =>
          rw [List.filterMap_cons_none demanded]
          rfl
      | some demand =>
          rw [List.filterMap_cons_some demanded]
          rfl

/-- Requests of the same content, which equal fingerprints mean, demand the same. -/
theorem demands_agree (stateless : pipeline.Stateless) (apart : Request.ToldApart requests)
    (state : σ) :
    ∀ first ∈ requests.filterMap (pipeline.demand? state),
      ∀ second ∈ requests.filterMap (pipeline.demand? state),
        first.fingerprint = second.fingerprint → first.yields = second.yields := by
  have demanded : ∀ demand ∈ requests.filterMap (pipeline.demand? state), ∃ request ∈ requests,
      demand.fingerprint = request.fingerprint ∧
        demand.yields = pipeline.yieldAt request state := by
    intro demand member
    obtain ⟨request, listed, demanded⟩ := List.mem_filterMap.mp member
    unfold demand? at demanded
    cases asked : pipeline.registry.target request.stage with
    | error failure => exact nomatch asked ▸ demanded
    | ok target =>
        rw [asked] at demanded
        cases demanded
        exact ⟨request, listed, rfl, rfl⟩
  intro first member second memberSecond same
  obtain ⟨request, listed, fingerprint, yields⟩ := demanded first member
  obtain ⟨other, listedOther, fingerprintOther, yieldsOther⟩ := demanded second memberSecond
  have sameContent := apart request listed other listedOther
    (fingerprint.symm.trans (same.trans fingerprintOther))
  rw [yields, yieldsOther, stateless.yieldAt sameContent]

/-- In a stateless pipeline with caching on whose fingerprints tell requests apart, the
order of a batch does not show.  Whatever was performed before, every request is
answered the same in any order, and the caches hold the same and have the same
figures behind it. -/
theorem serveAll_perm (pipeline : Pipeline σ) (enabled : pipeline.cacheEnabled = true)
    (stateless : pipeline.Stateless) (operations : List Operation) {requests order : List Request}
    (perm : order.Perm requests)
    (apart : Request.ToldApart (operations.flatMap Operation.requests ++ requests)) (state : σ) :
    let session := (pipeline.performAll operations (pipeline.newSession state)).2
    let served := pipeline.serveAll requests session
    let reordered := pipeline.serveAll order session
    (∃ answer, served.1 = requests.map answer ∧ reordered.1 = order.map answer) ∧
    (∀ index fingerprint, reordered.2.memory.held? index fingerprint =
      served.2.memory.held? index fingerprint) ∧
    reordered.2.memory.figures = served.2.memory.figures := by
  intro session served reordered
  let known := operations.flatMap Operation.requests ++ requests
  have transparent : pipeline.Transparent known (pipeline.Faithful known) :=
    transparent_of_enabled enabled stateless apart
  have ofBatch : requests ⊆ known := List.subset_append_right _ _
  have ofOrder : order ⊆ known := fun request member => ofBatch (perm.subset member)
  have inOrder : pipeline.InOrder session := ((Reachable.start state).performAll operations).inOrder
  have faithful : pipeline.Faithful known session :=
    performAll_keeps (transparent.keeps.mono (List.subset_append_left _ _))
      (fun dependency _ before => before.forget dependency) (fun _ before => before.clear)
      (faithful_newSession pipeline known state)
  have account : reordered.2.memory.account = served.2.memory.account := by
    have apartOrder : Request.ToldApart order := fun first member second memberSecond =>
      apart first (ofOrder member) second (ofOrder memberSecond)
    have agree := demands_agree stateless apartOrder state
    rw [serveAll_account enabled stateless apart ofOrder inOrder faithful.2 state,
      serveAll_account enabled stateless apart ofBatch inOrder faithful.2 state]
    exact Account.foldl_meet_perm _ (perm.filterMap _) agree
  refine ⟨⟨fun request => pipeline.fresh request state, ?_, ?_⟩, ?_, ?_⟩
  · exact Transparent.serveAll (transparent.mono ofBatch) faithful state
  · exact Transparent.serveAll (transparent.mono ofOrder) faithful state
  · intro index
    exact congrFun (congrFun (congrArg Account.held account) index)
  · have stages : ∀ batch, batch ⊆ known → pipeline.Fits (pipeline.serveAll batch session).2 :=
      fun batch subset => (serveAll_keeps (transparent.keeps.mono subset) faithful).1
    exact Memory.figures_of_account
      ((stages order ofOrder).trans (stages requests ofBatch).symm) account

/-- Three requests, two of them the same. -/
def sampleBatch : List Request :=
  [true, true, false].map sampleRequest

theorem sampleBatch_apart :
    Request.ToldApart (sampleHistory.flatMap Operation.requests ++ sampleBatch) :=
  sampleRequest_apart [false, true, true, false, true, true, false]

/-- The sample batch may be served in either order. -/
theorem serveAll_perm_reverse :
    let pipeline := Pipeline.mk counted emitters true
    let session := (pipeline.performAll sampleHistory (pipeline.newSession 0)).2
    pipeline.cacheEnabled = true ∧ pipeline.Stateless ∧ sampleBatch.reverse.Perm sampleBatch ∧
      Request.ToldApart (sampleHistory.flatMap Operation.requests ++ sampleBatch) ∧
      (pipeline.serveAll sampleBatch.reverse session).2.memory.figures =
        (pipeline.serveAll sampleBatch session).2.memory.figures := by
  have stateless : (Pipeline.mk counted emitters true).Stateless :=
    ⟨counted_stateless, emitters_stateless⟩
  have perm : sampleBatch.reverse.Perm sampleBatch := List.reverse_perm sampleBatch
  obtain ⟨_, _, figures⟩ :=
    serveAll_perm (Pipeline.mk counted emitters true) rfl stateless sampleHistory perm
      sampleBatch_apart 0
  exact ⟨rfl, stateless, perm, sampleBatch_apart, figures⟩

end Pipeline

end Cascade
