import Cascade.Proofs.Lookups
import Mathlib.Data.List.FinRange

/-!
# Every stage on the way

A request may ask for the outcomes of all stages up to its target.  The target is
resolved first, and behind that the caches hold an outcome for every stage before it:
what is answered is one chain, each outcome made from the one before, and nothing is
looked up in vain any more.
-/

namespace Cascade

/-- Every stage can be asked for by its name. -/
theorem Registry.target_stage {σ : Type} (registry : Registry σ) (index : Fin registry.size) :
    registry.target (some (registry.stage index).id) = .ok index := by
  have found : (registry.stages.findFinIdx? fun candidate =>
      candidate.id == (registry.stage index).id) = some index := by
    apply List.findFinIdx?_eq_some_iff.mpr
    constructor
    · exact beq_self_eq_true _
    · intro other before same
      have sameId : (registry.stages.get other).id = (registry.stage index).id := eq_of_beq same
      have samePlace := List.inj_on_of_nodup_map registry.distinct (List.get_mem _ _)
        (List.get_mem _ _) sameId
      have nodup := List.Nodup.of_map Stage.id registry.distinct
      exact absurd (nodup.injective_get samePlace) (Fin.ne_of_lt before)
  rw [target, indexOf, found]

namespace Memory

/-- Hits at stages, one after another. -/
def hits (memory : Memory) (indices : List Nat) : Memory :=
  indices.foldl hit memory

@[simp]
theorem held?_hits (memory : Memory) (indices : List Nat) (index : Nat)
    (fingerprint : Fingerprint) :
    (memory.hits indices).held? index fingerprint = memory.held? index fingerprint := by
  induction indices generalizing memory with
  | nil => rfl
  | cons first rest inductionHypothesis => exact (inductionHypothesis _).trans (held?_hit _ _ _ _)

@[simp]
theorem stages_hits (memory : Memory) (indices : List Nat) :
    (memory.hits indices).stages = memory.stages := by
  induction indices generalizing memory with
  | nil => rfl
  | cons first rest inductionHypothesis => exact (inductionHypothesis _).trans (stages_hit _ _)

@[simp]
theorem computations?_hits (memory : Memory) (indices : List Nat) (index : Nat) :
    (memory.hits indices).computations? index = memory.computations? index := by
  induction indices generalizing memory with
  | nil => rfl
  | cons first rest inductionHypothesis =>
      exact (inductionHypothesis _).trans (computations?_hit _ _ _)

end Memory

namespace Pipeline

variable {σ : Type} {pipeline : Pipeline σ} {request : Request} {fingerprint : Fingerprint}
  {session : Session σ}

/-! ## The stages up to a target -/

theorem getElem?_stagesUpTo (target : Fin pipeline.registry.size) (place : Nat) :
    (pipeline.stagesUpTo target)[place]? =
      if inOrder : place ≤ target then some ⟨place, Nat.lt_of_le_of_lt inOrder target.isLt⟩
      else none := by
  rw [stagesUpTo, List.getElem?_take]
  by_cases inOrder : place ≤ target
  · have inRange : place < (List.finRange pipeline.registry.size).length := by
      rw [List.length_finRange]
      exact Nat.lt_of_le_of_lt inOrder target.isLt
    rw [if_pos (Nat.lt_succ_of_le inOrder), dif_pos inOrder, List.getElem?_eq_getElem inRange,
      List.getElem_finRange]
    rfl
  · rw [if_neg (by omega), dif_neg inOrder]

theorem le_of_mem_stagesUpTo {target index : Fin pipeline.registry.size}
    (member : index ∈ pipeline.stagesUpTo target) : index.1 ≤ target := by
  obtain ⟨place, found⟩ := List.mem_iff_getElem?.mp member
  rw [getElem?_stagesUpTo] at found
  split at found
  next inOrder =>
    cases found
    exact inOrder
  next => exact nomatch found

theorem names_stagesUpTo (target : Fin pipeline.registry.size) :
    (pipeline.stagesUpTo target).map (fun index => (pipeline.registry.stage index).id) =
      pipeline.registry.stageIds.take (target + 1) := by
  have names : (List.finRange pipeline.registry.size).map
      (fun index => (pipeline.registry.stage index).id) = pipeline.registry.stageIds := by
    conv_rhs => rw [Registry.stageIds, ← List.map_get_finRange pipeline.registry.stages]
    rw [List.map_map]
    rfl
  rw [stagesUpTo, List.map_take, names]

/-! ## Stages that are held -/

/-- The session behind hits at stages. -/
def behindHits (session : Session σ) (indices : List (Fin pipeline.registry.size)) : Session σ :=
  { session with memory := session.memory.hits (indices.map Fin.val) }

/-- Stages that are held are answered with nothing but hits. -/
theorem outcomesAt_of_held (enabled : pipeline.cacheEnabled = true) (fits : pipeline.Fits session)
    {outcomeOf : Fin pipeline.registry.size → Outcome}
    {indices : List (Fin pipeline.registry.size)}
    (held : ∀ index ∈ indices,
      session.memory.held? index fingerprint = some (outcomeOf index)) :
    pipeline.outcomesAt request fingerprint indices session =
      (.ok (indices.map fun index => ((pipeline.registry.stage index).id, outcomeOf index)),
        behindHits session indices) := by
  induction indices generalizing session with
  | nil => rfl
  | cons index rest inductionHypothesis =>
      have heldHere := held index List.mem_cons_self
      have heldRest : ∀ other ∈ rest,
          (session.hit index).memory.held? other fingerprint = some (outcomeOf other) := by
        intro other member
        simpa using held other (List.mem_cons_of_mem index member)
      have fitsBehind : pipeline.Fits (session.hit index) :=
        (Memory.stages_hit session.memory index).trans fits
      rw [outcomesAt, outcomeAt_of_held enabled fits index.isLt heldHere]
      simp only
      rw [inductionHypothesis fitsBehind heldRest]
      rfl

/-! ## One chain -/

/-- The items are the outcomes that are held for the stages up to the target. -/
structure HeldChain (pipeline : Pipeline σ) (memory : Memory) (fingerprint : Fingerprint)
    (target : Fin pipeline.registry.size) (items : List (String × Outcome)) : Prop where
  names : items.map Prod.fst = pipeline.registry.stageIds.take (target + 1)
  held : ∀ place item, items[place]? = some item →
    ∃ index : Fin pipeline.registry.size, index.1 = place ∧
      item.1 = (pipeline.registry.stage index).id ∧
      memory.held? place fingerprint = some item.2

/-- If the target is held, a chain is answered, with nothing but hits. -/
theorem heldChain_of_held (request : Request) (enabled : pipeline.cacheEnabled = true)
    (inOrder : pipeline.InOrder session) {target : Fin pipeline.registry.size} {outcome : Outcome}
    (held : session.memory.held? target fingerprint = some outcome) :
    ∃ items,
      pipeline.outcomesAt request fingerprint (pipeline.stagesUpTo target) session =
        (.ok items, behindHits session (pipeline.stagesUpTo target)) ∧
      pipeline.HeldChain session.memory fingerprint target items := by
  obtain ⟨fits, closed⟩ := inOrder
  let outcomeOf : Fin pipeline.registry.size → Outcome := fun index =>
    (session.memory.held? index fingerprint).getD outcome
  have heldOnTheWay : ∀ index : Fin pipeline.registry.size, index.1 ≤ target →
      session.memory.held? index fingerprint = some (outcomeOf index) := by
    intro index onTheWay
    obtain ⟨source, heldBefore⟩ := closed.held_before onTheWay held
    simp [outcomeOf, heldBefore]
  refine ⟨_, outcomesAt_of_held enabled fits fun index member =>
    heldOnTheWay index (le_of_mem_stagesUpTo member), ?_, ?_⟩
  · rw [List.map_map, ← names_stagesUpTo]
    rfl
  · intro place item found
    rw [List.getElem?_map, getElem?_stagesUpTo] at found
    split at found
    next onTheWay =>
      cases found
      have inRange := Nat.lt_of_le_of_lt onTheWay target.isLt
      exact ⟨⟨place, inRange⟩, rfl, rfl, heldOnTheWay ⟨place, inRange⟩ onTheWay⟩
    next => exact nomatch found

/-- The last item is the outcome of the target. -/
theorem HeldChain.last {memory : Memory} {target : Fin pipeline.registry.size}
    {items : List (String × Outcome)} (chain : pipeline.HeldChain memory fingerprint target items)
    {outcome : Outcome} (held : memory.held? target fingerprint = some outcome) :
    ∃ name, items.getLast? = some (name, outcome) := by
  have length : items.length = target + 1 := by
    have sameLength := congrArg List.length chain.names
    rw [List.length_map, List.length_take, Registry.stageIds, List.length_map] at sameLength
    exact sameLength.trans (Nat.min_eq_left target.isLt)
  have present : target.1 < items.length := length ▸ Nat.lt_succ_self _
  have found := List.getElem?_eq_getElem present
  obtain ⟨_, _, _, heldHere⟩ := chain.held target _ found
  have same : items[target.1].2 = outcome := Option.some.inj (heldHere.symm.trans held)
  refine ⟨items[target.1].1, ?_⟩
  rw [List.getLast?_eq_getElem?, length, Nat.add_sub_cancel, found, ← same]

/-- Each item is made from the one before. -/
theorem HeldChain.grows {memory : Memory} {target : Fin pipeline.registry.size}
    {items : List (String × Outcome)} (chain : pipeline.HeldChain memory fingerprint target items)
    (closed : memory.Closed) {place : Nat} {earlier later : String × Outcome}
    (found : items[place]? = some earlier) (next : items[place + 1]? = some later) :
    later.2.Continues earlier.2.material := by
  obtain ⟨_, _, _, heldHere⟩ := chain.held place _ found
  obtain ⟨_, _, _, heldNext⟩ := chain.held (place + 1) _ next
  obtain ⟨previous, heldBefore, continues⟩ := closed.source heldNext
  cases heldHere.symm.trans heldBefore
  exact continues

/-! ## Requests for all stages on the way -/

theorem serveChain_of_failed {failure : Failure} {after : Session σ}
    (failed : pipeline.serve request session = (.error failure, after)) :
    pipeline.serveChain request session = (.error failure, after) := by
  cases asked : pipeline.registry.target request.stage with
  | error unknown =>
      rw [serve_of_unknown asked] at failed
      cases failed
      rw [serveChain, asked]
  | ok target =>
      rw [serve_of_target asked] at failed
      rw [serveChain, asked]
      simp only [failed]

/-- A request that is answered leaves its whole chain in the caches. -/
theorem serveChain_of_served (enabled : pipeline.cacheEnabled = true)
    (inOrder : pipeline.InOrder session) {outcome : Outcome} {after : Session σ}
    (served : pipeline.serve request session = (.ok outcome, after)) :
    ∃ target items, pipeline.registry.target request.stage = .ok target ∧
      pipeline.InOrder after ∧
      after.memory.held? target request.fingerprint = some outcome ∧
      pipeline.HeldChain after.memory request.fingerprint target items ∧
      pipeline.serveChain request session =
        (.ok items, behindHits after (pipeline.stagesUpTo target)) := by
  cases asked : pipeline.registry.target request.stage with
  | error unknown => exact nomatch (serve_of_unknown asked session).symm.trans served
  | ok target =>
      have resolved := (serve_of_target asked session).symm.trans served
      have resolves := outcomeAt_resolves request request.fingerprint enabled target.isLt inOrder.1
      rw [resolved] at resolves
      have inOrderBehind : pipeline.InOrder after :=
        ⟨resolves.fits inOrder.1, resolves.closed inOrder.1 inOrder.2⟩
      have held := resolves.holds inOrder.1 rfl
      obtain ⟨items, listed, chain⟩ := heldChain_of_held request enabled inOrderBehind held
      refine ⟨target, items, rfl, inOrderBehind, held, chain, ?_⟩
      rw [serveChain, asked]
      simp only [resolved]
      exact listed

/-- Serving a request computes every stage at most once. -/
theorem computations?_serve (enabled : pipeline.cacheEnabled = true)
    (inOrder : pipeline.InOrder session) (request : Request) (index : Nat) :
    ∃ computed ≤ 1, (pipeline.serve request session).2.memory.computations? index =
      (session.memory.computations? index).map (· + computed) := by
  cases asked : pipeline.registry.target request.stage with
  | error unknown =>
      rw [serve_of_unknown asked]
      exact ⟨0, Nat.zero_le 1, by simp⟩
  | ok target =>
      have resolves := outcomeAt_resolves request request.fingerprint enabled target.isLt inOrder.1
      rw [serve_of_target asked]
      exact ⟨_, Holdings.lacking_le_one _ _ _ _, resolves.computations? inOrder index⟩

/-- A stage that is held is answered to a request for it by its name. -/
theorem serve_of_held (enabled : pipeline.cacheEnabled = true) (fits : pipeline.Fits session)
    {index : Fin pipeline.registry.size} {outcome : Outcome}
    (held : session.memory.held? index request.fingerprint = some outcome) :
    (pipeline.serve { request with stage := some (pipeline.registry.stage index).id } session).1 =
      .ok outcome := by
  rw [serve, Registry.target_stage]
  exact congrArg Prod.fst (outcomeAt_of_held enabled fits index.isLt held)

/-- Whatever was performed before, a request for all stages on the way fails exactly
if the request itself does, with the same failure.  Otherwise it is answered one item
for each stage up to its target, in order, the last one with the outcome that the
request itself is answered; each stage is answered the same right afterwards, and
what was reported only grows from item to item.  No stage is computed more than once,
and once the target is resolved there are only hits. -/
theorem Reachable.serveChain_coherent (reachable : pipeline.Reachable session)
    (enabled : pipeline.cacheEnabled = true) (request : Request) :
    let served := pipeline.serve request session
    let chain := pipeline.serveChain request session
    (∀ failure, chain.1 = .error failure ↔ served.1 = .error failure) ∧
    (∀ items, chain.1 = .ok items → ∃ target name outcome,
      pipeline.registry.target request.stage = .ok target ∧
      items.map Prod.fst = pipeline.registry.stageIds.take (target + 1) ∧
      items.getLast? = some (name, outcome) ∧ served.1 = .ok outcome ∧
      (∀ item ∈ items,
        (pipeline.serve { request with stage := some item.1 } chain.2).1 = .ok item.2) ∧
      (∀ place earlier later, items[place]? = some earlier → items[place + 1]? = some later →
        earlier.2.diagnostics <+: later.2.diagnostics ∧
          earlier.2.dependencies <+: later.2.dependencies) ∧
      chain.2 = behindHits served.2 (pipeline.stagesUpTo target)) ∧
    ∀ index, ∃ computed ≤ 1, chain.2.memory.computations? index =
      (session.memory.computations? index).map (· + computed) := by
  intro served chain
  have inOrder := reachable.inOrder
  have counted := computations?_serve enabled inOrder request
  cases answered : pipeline.serve request session with
  | mk answer after =>
      rw [answered] at counted
      cases answer with
      | error failure =>
          have failed : chain = (.error failure, after) := serveChain_of_failed answered
          rw [show served = (.error failure, after) from answered, failed]
          exact ⟨fun other => by simp, fun items => by simp, counted⟩
      | ok outcome =>
          obtain ⟨target, items, asked, inOrderBehind, held, heldChain, listed⟩ :=
            serveChain_of_served enabled inOrder answered
          obtain ⟨name, last⟩ := heldChain.last held
          have fitsBehind : pipeline.Fits (behindHits after (pipeline.stagesUpTo target)) :=
            (Memory.stages_hits _ _).trans inOrderBehind.1
          rw [show served = (.ok outcome, after) from answered,
            show chain = (.ok items, behindHits after (pipeline.stagesUpTo target)) from listed]
          refine ⟨fun other => by simp, ?_, fun index => ?_⟩
          · rintro _ ⟨⟩
            refine ⟨target, name, outcome, asked, heldChain.names, last, rfl, ?_, ?_, rfl⟩
            · intro item member
              obtain ⟨place, found⟩ := List.mem_iff_getElem?.mp member
              obtain ⟨index, rfl, named, heldHere⟩ := heldChain.held place item found
              rw [named]
              exact serve_of_held enabled fitsBehind ((Memory.held?_hits _ _ _ _).trans heldHere)
            · intro place earlier later found next
              have grows := heldChain.grows inOrderBehind.2 found next
              exact ⟨grows.diagnostics, grows.dependencies⟩
          · obtain ⟨computed, once, counts⟩ := counted index
            exact ⟨computed, once, (Memory.computations?_hits _ _ _).trans counts⟩

/-- Behind a request, the chain of two stages is answered by the caches alone. -/
theorem recorded_serveChain :
    recording.Reachable recorded ∧ recording.cacheEnabled = true ∧
      ∃ items, (recording.serveChain { tree := Node.program [] } recorded).1 = .ok items ∧
        items.map Prod.fst = ["normalize", "lint"] ∧
        ∀ index, ∃ computed ≤ 1,
          (recording.serveChain { tree := Node.program [] } recorded).2.memory.computations?
              index =
            (recorded.memory.computations? index).map (· + computed) := by
  let request : Request := { tree := Node.program [] }
  have reachable : recording.Reachable recorded := (Reachable.start ()).step _
  obtain ⟨sameFailures, answered, once⟩ := reachable.serveChain_coherent rfl request
  obtain ⟨outcome, held⟩ := recorded_holds
  have target : recording.registry.target request.stage = .ok ⟨1, Nat.one_lt_two⟩ := rfl
  have served : (recording.serve request recorded).1 = .ok outcome := by
    rw [serve_of_target target]
    exact congrArg Prod.fst (outcomeAt_of_held rfl reachable.inOrder.1 Nat.one_lt_two held)
  refine ⟨reachable, rfl, ?_⟩
  cases chain : (recording.serveChain request recorded).1 with
  | error failure => exact nomatch served.symm.trans ((sameFailures failure).mp chain)
  | ok items =>
      obtain ⟨_, _, _, asked, names, _⟩ := answered items chain
      cases target.symm.trans asked
      exact ⟨items, rfl, names, once⟩

end Pipeline

end Cascade
