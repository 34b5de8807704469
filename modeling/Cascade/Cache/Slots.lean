import Cascade.Request

/-!
# Slots for outcomes

A table of slots, at most one for each fingerprint.  A slot is empty until an
outcome is put into it, and the first outcome stays for as long as the slot
does.  What a table holds is told by `Slots.held?`, and every operation comes
with a lemma that says what is held behind it.
-/

namespace Cascade

/-- Slots by fingerprint, in the order in which they were made.  A slot without
an outcome is empty. -/
abbrev Slots :=
  List (Fingerprint × Option Outcome)

namespace Slots

/-- No two slots are for the same fingerprint. -/
def Distinct (slots : Slots) : Prop :=
  (slots.map Prod.fst).Nodup

/-- The outcome that is held for a fingerprint. -/
def held? (slots : Slots) (fingerprint : Fingerprint) : Option Outcome :=
  (slots.lookup fingerprint).join

/-- The table with a slot for the fingerprint, which is empty if it is new. -/
def ensure (slots : Slots) (fingerprint : Fingerprint) : Slots :=
  if (slots.lookup fingerprint).isSome then slots else slots ++ [(fingerprint, none)]

/-- Puts an outcome into the slot for a fingerprint, unless the slot is
filled. -/
def fill (fingerprint : Fingerprint) (outcome : Outcome) : Slots → Slots
  | [] => [(fingerprint, some outcome)]
  | slot :: rest =>
      if slot.1 = fingerprint then (fingerprint, some (slot.2.getD outcome)) :: rest
      else slot :: fill fingerprint outcome rest

/-- The table without the slot for a fingerprint. -/
def erase (slots : Slots) (fingerprint : Fingerprint) : Slots :=
  slots.filter fun slot => slot.1 != fingerprint

/-- Whether a slot stays: empty ones do, filled ones as `keep` says. -/
def stays (keep : Fingerprint → Outcome → Bool) (slot : Fingerprint × Option Outcome) : Bool :=
  slot.2.all (keep slot.1)

/-- The table without the filled slots that `keep` rejects. -/
def sweep (slots : Slots) (keep : Fingerprint → Outcome → Bool) : Slots :=
  slots.filter (stays keep)

/-- The number of filled slots. -/
def filled (slots : Slots) : Nat :=
  slots.countP fun slot => slot.2.isSome

/-! ## What is held -/

@[simp]
theorem held?_nil (fingerprint : Fingerprint) : held? [] fingerprint = none :=
  rfl

theorem held?_cons (slot : Fingerprint × Option Outcome) (rest : Slots)
    (fingerprint : Fingerprint) :
    held? (slot :: rest) fingerprint =
      if slot.1 = fingerprint then slot.2 else held? rest fingerprint := by
  unfold held?
  rw [List.lookup_cons]
  by_cases same : slot.1 = fingerprint
  · simp [same]
  · have different : (fingerprint == slot.1) = false := by
      simpa using Ne.symm same
    simp [same, different]

/-- What is not held for lack of a slot. -/
theorem held?_eq_none_of_notMem {slots : Slots} {fingerprint : Fingerprint}
    (absent : fingerprint ∉ slots.map Prod.fst) : slots.held? fingerprint = none := by
  induction slots with
  | nil => rfl
  | cons slot rest inductionHypothesis =>
      obtain ⟨different, absentBehind⟩ :
          slot.1 ≠ fingerprint ∧ fingerprint ∉ rest.map Prod.fst := by
        constructor
        · intro same
          exact absent (by simp [same])
        · intro member
          exact absent (List.mem_cons_of_mem _ member)
      rw [held?_cons, if_neg different]
      exact inductionHypothesis absentBehind

theorem held?_append_empty (slots : Slots) (fingerprint other : Fingerprint) :
    held? (slots ++ [(fingerprint, none)]) other = slots.held? other := by
  induction slots with
  | nil => simp [held?_cons]
  | cons slot rest inductionHypothesis =>
      rw [List.cons_append, held?_cons, held?_cons, inductionHypothesis]

/-- Making a slot changes nothing that is held. -/
@[simp]
theorem held?_ensure (slots : Slots) (fingerprint other : Fingerprint) :
    (slots.ensure fingerprint).held? other = slots.held? other := by
  unfold ensure
  split
  · rfl
  · exact held?_append_empty slots fingerprint other

/-- Filling a slot adds an outcome only where none was held. -/
theorem held?_fill (slots : Slots) (fingerprint other : Fingerprint) (outcome : Outcome) :
    (slots.fill fingerprint outcome).held? other =
      if other = fingerprint then some ((slots.held? fingerprint).getD outcome)
      else slots.held? other := by
  induction slots with
  | nil =>
      rw [fill, held?_cons]
      by_cases same : other = fingerprint
      · simp [same]
      · simp [same, Ne.symm same]
  | cons slot rest inductionHypothesis =>
      unfold fill
      by_cases here : slot.1 = fingerprint
      · rw [if_pos here, held?_cons, held?_cons, held?_cons, if_pos here]
        by_cases same : other = fingerprint
        · simp [same]
        · simp [same, Ne.symm same, here]
      · rw [if_neg here, held?_cons, held?_cons, held?_cons, inductionHypothesis, if_neg here]
        by_cases same : other = fingerprint
        · simp [same, here]
        · simp [same]

@[simp]
theorem held?_fill_self (slots : Slots) (fingerprint : Fingerprint) (outcome : Outcome) :
    (slots.fill fingerprint outcome).held? fingerprint =
      some ((slots.held? fingerprint).getD outcome) := by
  rw [held?_fill, if_pos rfl]

/-- A filled slot stays as it is. -/
theorem fill_of_held {slots : Slots} {fingerprint : Fingerprint} {held : Outcome}
    (filled : slots.held? fingerprint = some held) (outcome : Outcome) :
    slots.fill fingerprint outcome = slots := by
  induction slots with
  | nil => exact nomatch filled
  | cons slot rest inductionHypothesis =>
      rw [held?_cons] at filled
      unfold fill
      by_cases here : slot.1 = fingerprint
      · rw [if_pos here] at filled ⊢
        rw [filled, Option.getD_some, ← here, ← filled]
      · rw [if_neg here] at filled ⊢
        rw [inductionHypothesis filled]

theorem ensure_of_held {slots : Slots} {fingerprint : Fingerprint} {held : Outcome}
    (filled : slots.held? fingerprint = some held) : slots.ensure fingerprint = slots := by
  have present : (slots.lookup fingerprint).isSome = true :=
    Option.isSome_of_eq_some (Option.join_eq_some_iff.mp filled)
  rw [ensure, if_pos present]

/-- Making a slot before it is filled makes no difference. -/
theorem fill_ensure (slots : Slots) (fingerprint : Fingerprint) (outcome : Outcome) :
    (slots.ensure fingerprint).fill fingerprint outcome = slots.fill fingerprint outcome := by
  unfold ensure
  split
  · rfl
  next absent =>
    induction slots with
    | nil => simp [fill]
    | cons slot rest inductionHypothesis =>
        by_cases here : slot.1 = fingerprint
        · simp [here] at absent
        · have different : (fingerprint == slot.1) = false := by simpa using Ne.symm here
          rw [List.lookup_cons, different] at absent
          rw [List.cons_append, fill, fill, if_neg here, if_neg here, inductionHypothesis absent]

/-- Removing a slot forgets what it held, and nothing else. -/
theorem held?_erase (slots : Slots) (fingerprint other : Fingerprint) :
    (slots.erase fingerprint).held? other =
      if other = fingerprint then none else slots.held? other := by
  induction slots with
  | nil => simp [erase]
  | cons slot rest inductionHypothesis =>
      unfold erase at inductionHypothesis ⊢
      by_cases here : slot.1 = fingerprint
      · have dropped : (slot.1 != fingerprint) = false := by simpa using here
        rw [List.filter_cons, dropped, if_neg Bool.false_ne_true, inductionHypothesis, held?_cons]
        by_cases same : other = fingerprint
        · simp [same]
        · simp [same, here, Ne.symm same]
      · have kept : (slot.1 != fingerprint) = true := by simpa using here
        rw [List.filter_cons, if_pos kept, held?_cons, held?_cons, inductionHypothesis]
        by_cases same : other = fingerprint
        · simp [same, here]
        · simp [same]

/-- Sweeping forgets exactly the outcomes that are rejected. -/
theorem held?_sweep {slots : Slots} (distinct : slots.Distinct)
    (keep : Fingerprint → Outcome → Bool) (fingerprint : Fingerprint) :
    (slots.sweep keep).held? fingerprint = (slots.held? fingerprint).filter (keep fingerprint) := by
  induction slots with
  | nil => rfl
  | cons slot rest inductionHypothesis =>
      rcases List.nodup_cons.mp distinct with ⟨fresh, distinctBehind⟩
      have behind := inductionHypothesis distinctBehind
      unfold sweep at behind ⊢
      by_cases here : slot.1 = fingerprint
      · have nothingBehind : held? rest fingerprint = none := by
          apply held?_eq_none_of_notMem
          rw [← here]
          exact fresh
        cases filling : slot.2 with
        | none =>
            have kept : stays keep slot = true := by simp [stays, filling]
            rw [List.filter_cons_of_pos kept, held?_cons, held?_cons, if_pos here, if_pos here,
              filling]
            rfl
        | some outcome =>
            by_cases wanted : keep slot.1 outcome = true
            · have kept : stays keep slot = true := by simp [stays, filling, wanted]
              rw [List.filter_cons_of_pos kept, held?_cons, held?_cons, if_pos here, if_pos here,
                filling]
              simp [Option.filter, ← here, wanted]
            · have dropped : ¬stays keep slot = true := by simp [stays, filling, wanted]
              rw [List.filter_cons_of_neg dropped, behind, nothingBehind, held?_cons, if_pos here,
                filling]
              simp [Option.filter, ← here, wanted]
      · by_cases kept : stays keep slot = true
        · rw [List.filter_cons_of_pos kept, held?_cons, held?_cons, if_neg here, if_neg here]
          exact behind
        · rw [List.filter_cons_of_neg kept, held?_cons, if_neg here]
          exact behind

/-! ## Distinctness -/

theorem mem_keys_of_lookup_isSome {slots : Slots} {fingerprint : Fingerprint}
    (member : fingerprint ∈ slots.map Prod.fst) : (slots.lookup fingerprint).isSome = true := by
  induction slots with
  | nil => exact absurd member List.not_mem_nil
  | cons slot rest inductionHypothesis =>
      rw [List.lookup_cons]
      by_cases same : fingerprint = slot.1
      · simp [same]
      · have different : (fingerprint == slot.1) = false := by simpa using same
        rcases List.mem_cons.mp member with here | behind
        · exact absurd here same
        · simpa [different] using inductionHypothesis behind

/-- What stays of a table is found there as before. -/
theorem lookup_filter {slots : Slots} (distinct : slots.Distinct)
    (stay : Fingerprint × Option Outcome → Bool) (fingerprint : Fingerprint) :
    (slots.filter stay).lookup fingerprint = slots.lookup fingerprint ∨
      (slots.filter stay).lookup fingerprint = none := by
  induction slots with
  | nil => exact .inl rfl
  | cons slot rest inductionHypothesis =>
      obtain ⟨fresh, distinctBehind⟩ := List.nodup_cons.mp distinct
      have behind := inductionHypothesis distinctBehind
      by_cases same : fingerprint = slot.1
      · by_cases kept : stay slot = true
        · left
          rw [List.filter_cons_of_pos kept, List.lookup_cons, List.lookup_cons, same,
            beq_self_eq_true]
        · right
          rw [List.filter_cons_of_neg kept, List.lookup_eq_none_iff]
          intro other member
          have inRest : other.1 ∈ rest.map Prod.fst :=
            List.mem_map_of_mem (List.mem_filter.mp member).1
          rw [bne_iff_ne, same]
          exact fun here => fresh (here ▸ inRest)
      · have different : (fingerprint == slot.1) = false := by simpa using same
        by_cases kept : stay slot = true
        · rw [List.filter_cons_of_pos kept, List.lookup_cons, List.lookup_cons, different]
          exact behind
        · rw [List.filter_cons_of_neg kept, List.lookup_cons, different]
          exact behind

theorem Distinct.ensure {slots : Slots} (distinct : slots.Distinct) (fingerprint : Fingerprint) :
    (slots.ensure fingerprint).Distinct := by
  unfold Slots.ensure
  split
  · exact distinct
  next absent =>
    have fresh : fingerprint ∉ slots.map Prod.fst := fun member =>
      absent (mem_keys_of_lookup_isSome member)
    unfold Distinct
    rw [List.map_append]
    refine List.nodup_append.mpr ⟨distinct, by simp, ?_⟩
    intro first member second here
    have equal : second = fingerprint := by simpa using here
    exact equal ▸ fun same => fresh (same ▸ member)

theorem keys_fill (slots : Slots) (fingerprint : Fingerprint) (outcome : Outcome) :
    (slots.fill fingerprint outcome).map Prod.fst =
      if fingerprint ∈ slots.map Prod.fst then slots.map Prod.fst
      else slots.map Prod.fst ++ [fingerprint] := by
  induction slots with
  | nil => simp [fill]
  | cons slot rest inductionHypothesis =>
      unfold fill
      by_cases here : slot.1 = fingerprint
      · simp [here]
      · rw [if_neg here, List.map_cons, inductionHypothesis]
        by_cases member : fingerprint ∈ rest.map Prod.fst
        · rw [if_pos member, List.map_cons, if_pos (List.mem_cons_of_mem _ member)]
        · have absent : fingerprint ∉ (slot :: rest).map Prod.fst := by
            intro present
            rcases List.mem_cons.mp present with same | behind
            · exact here same.symm
            · exact member behind
          rw [if_neg member, if_neg absent, List.map_cons, List.cons_append]

theorem Distinct.fill {slots : Slots} (distinct : slots.Distinct) (fingerprint : Fingerprint)
    (outcome : Outcome) : (slots.fill fingerprint outcome).Distinct := by
  unfold Distinct
  rw [keys_fill]
  split
  · exact distinct
  next absent =>
    refine List.nodup_append.mpr ⟨distinct, by simp, ?_⟩
    intro first member second here
    have equal : second = fingerprint := by simpa using here
    exact equal ▸ fun same => absent (same ▸ member)

theorem Distinct.erase {slots : Slots} (distinct : slots.Distinct) (fingerprint : Fingerprint) :
    (slots.erase fingerprint).Distinct :=
  distinct.sublist (List.filter_sublist.map Prod.fst)

theorem Distinct.sweep {slots : Slots} (distinct : slots.Distinct)
    (keep : Fingerprint → Outcome → Bool) : (slots.sweep keep).Distinct :=
  distinct.sublist (List.filter_sublist.map Prod.fst)

end Slots

end Cascade
