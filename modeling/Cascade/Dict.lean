/-!
# Dictionaries with sorted keys

A dictionary is a list of entries whose keys increase strictly in the order of
strings, which is the order of their code points.  Dictionaries with the same
entries are therefore equal however they were built, and every listing of a
dictionary is in key order.  The operations on plain entry lists serve nested
data as well.
-/

namespace Cascade

/-- Entries of a dictionary. -/
abbrev Entries (α : Type) :=
  List (String × α)

namespace Entries

variable {α : Type}

/-- Keys increase strictly along the entries. -/
def Sorted (entries : Entries α) : Prop :=
  entries.Pairwise fun first second => first.1 < second.1

/-- The entries with `key` bound to `value`, in place of an earlier binding. -/
def insert (key : String) (value : α) : Entries α → Entries α
  | [] => [(key, value)]
  | entry :: rest =>
      if key < entry.1 then (key, value) :: entry :: rest
      else if key = entry.1 then (key, value) :: rest
      else entry :: insert key value rest

/-- Bindings added one after another; a later one replaces an earlier one. -/
def insertAll (entries : Entries α) (bindings : List (String × α)) : Entries α :=
  bindings.foldl (fun sorted binding => insert binding.1 binding.2 sorted) entries

theorem mem_insert {key : String} {value : α} {entries : Entries α}
    {entry : String × α} (member : entry ∈ insert key value entries) :
    entry = (key, value) ∨ entry ∈ entries := by
  induction entries with
  | nil => simpa [insert] using member
  | cons head rest inductionHypothesis =>
      unfold insert at member
      split at member
      · simpa using member
      · split at member
        · rcases List.mem_cons.mp member with here | there
          · exact .inl here
          · exact .inr (List.mem_cons_of_mem _ there)
        · rcases List.mem_cons.mp member with here | there
          · exact .inr (here ▸ List.mem_cons_self)
          · exact (inductionHypothesis there).imp_right (List.mem_cons_of_mem _)

theorem Sorted.insert {entries : Entries α} (sorted : Sorted entries)
    (key : String) (value : α) : Sorted (Entries.insert key value entries) := by
  induction entries with
  | nil => simp [Entries.insert, Sorted]
  | cons head rest inductionHypothesis =>
      have headBelow := (List.pairwise_cons.mp sorted).1
      have restSorted := (List.pairwise_cons.mp sorted).2
      unfold Entries.insert
      split
      next below =>
        refine List.pairwise_cons.mpr ⟨fun entry member => ?_, sorted⟩
        rcases List.mem_cons.mp member with here | there
        · exact here ▸ below
        · exact String.lt_trans below (headBelow entry there)
      next notBelow =>
        split
        next equal =>
          exact List.pairwise_cons.mpr
            ⟨fun entry member => equal ▸ headBelow entry member, restSorted⟩
        next different =>
          have above : head.1 < key :=
            Std.lt_of_le_of_ne notBelow (Ne.symm different)
          refine List.pairwise_cons.mpr
            ⟨fun entry member => ?_, inductionHypothesis restSorted⟩
          rcases mem_insert member with here | there
          · exact here ▸ above
          · exact headBelow entry there

theorem Sorted.insertAll {entries : Entries α} (sorted : Sorted entries)
    (bindings : List (String × α)) : Sorted (Entries.insertAll entries bindings) := by
  induction bindings generalizing entries with
  | nil => exact sorted
  | cons binding rest inductionHypothesis =>
      exact inductionHypothesis (sorted.insert binding.1 binding.2)

theorem lookup_cons (entry : String × α) (rest : Entries α) (key : String) :
    List.lookup key (entry :: rest) =
      if key = entry.1 then some entry.2 else List.lookup key rest := by
  rw [List.lookup_cons]
  by_cases same : key = entry.1
  · simp [same]
  · have different : (key == entry.1) = false := by simpa using same
    simp [same, different]

/-- Binding a key changes what is found under that key, and nothing else. -/
theorem lookup_insert (key other : String) (value : α) (entries : Entries α) :
    List.lookup other (Entries.insert key value entries) =
      if other = key then some value else List.lookup other entries := by
  induction entries with
  | nil => rw [Entries.insert, lookup_cons]
  | cons entry rest inductionHypothesis =>
      unfold Entries.insert
      split
      · rw [lookup_cons]
      next =>
        split
        next same =>
          rw [lookup_cons, lookup_cons, ← same]
          by_cases here : other = key
          · simp [here]
          · simp [here]
        next different =>
          rw [lookup_cons, lookup_cons, inductionHypothesis]
          by_cases here : other = key
          · have elsewhere : other ≠ entry.1 := fun equal => different (here ▸ equal)
            simp [here, different]
          · simp [here]

/-- What is found behind bindings is the last one of a key, or what was found before. -/
theorem lookup_insertAll (entries : Entries α) (bindings : List (String × α)) (key : String) :
    List.lookup key (entries.insertAll bindings) =
      (bindings.reverse.lookup key).or (List.lookup key entries) := by
  induction bindings generalizing entries with
  | nil => rfl
  | cons binding rest inductionHypothesis =>
      rw [List.reverse_cons, List.lookup_append, Option.or_assoc]
      refine (inductionHypothesis _).trans (congrArg _ ?_)
      rw [lookup_insert, lookup_cons]
      split <;> rfl

theorem insert_of_above {entries : Entries α} {key : String} {value : α}
    (above : ∀ entry ∈ entries, entry.1 < key) :
    Entries.insert key value entries = entries ++ [(key, value)] := by
  induction entries with
  | nil => rfl
  | cons entry rest inductionHypothesis =>
      have below := above entry List.mem_cons_self
      have different : key ≠ entry.1 := fun equal =>
        String.lt_irrefl key (equal ▸ below : key < key)
      rw [Entries.insert, if_neg (String.lt_asymm below), if_neg different,
        inductionHypothesis fun other member => above other (List.mem_cons_of_mem _ member)]
      rfl

/-- Bindings that are sorted already are listed as they are. -/
theorem insertAll_of_sorted {entries bindings : Entries α} (sorted : Sorted (entries ++ bindings)) :
    Entries.insertAll entries bindings = entries ++ bindings := by
  induction bindings generalizing entries with
  | nil => simp [Entries.insertAll]
  | cons binding rest inductionHypothesis =>
      have above : ∀ entry ∈ entries, entry.1 < binding.1 := fun entry member =>
        (List.pairwise_append.mp sorted).2.2 entry member binding List.mem_cons_self
      have shifted : entries ++ binding :: rest = entries ++ [binding] ++ rest := by simp
      rw [shifted] at sorted ⊢
      rw [← inductionHypothesis sorted, ← insert_of_above above]
      rfl

theorem lookup_eq_none_of_lt {entries : Entries α} {key : String}
    (below : ∀ entry ∈ entries, key < entry.1) : List.lookup key entries = none := by
  induction entries with
  | nil => rfl
  | cons entry rest inductionHypothesis =>
      have different : key ≠ entry.1 := fun equal =>
        String.lt_irrefl key (equal ▸ below entry List.mem_cons_self : key < key)
      rw [lookup_cons, if_neg different]
      exact inductionHypothesis fun other member => below other (List.mem_cons_of_mem _ member)

/-- Sorted entries are determined by what is found in them. -/
theorem Sorted.ext {first second : Entries α} (firstSorted : first.Sorted)
    (secondSorted : second.Sorted)
    (same : ∀ key, List.lookup key first = List.lookup key second) : first = second := by
  induction first generalizing second with
  | nil =>
      cases second with
      | nil => rfl
      | cons entry rest =>
          have impossible := same entry.1
          rw [lookup_cons, if_pos rfl] at impossible
          exact nomatch impossible
  | cons entry rest inductionHypothesis =>
      cases second with
      | nil =>
          have impossible := same entry.1
          rw [lookup_cons, if_pos rfl] at impossible
          exact nomatch impossible
      | cons other others =>
          rcases List.pairwise_cons.mp firstSorted with ⟨entryBelow, restSorted⟩
          rcases List.pairwise_cons.mp secondSorted with ⟨otherBelow, othersSorted⟩
          have keys : entry.1 = other.1 := by
            apply Classical.byContradiction
            intro different
            have atEntry := same entry.1
            have atOther := same other.1
            rw [lookup_cons, if_pos rfl, lookup_cons, if_neg different] at atEntry
            rw [lookup_cons, if_neg (Ne.symm different), lookup_cons, if_pos rfl] at atOther
            rcases String.le_total entry.1 other.1 with below | above
            · have strictly : entry.1 < other.1 := Std.lt_of_le_of_ne below different
              rw [lookup_eq_none_of_lt fun member memberOf =>
                String.lt_trans strictly (otherBelow member memberOf)] at atEntry
              exact nomatch atEntry
            · have strictly : other.1 < entry.1 := Std.lt_of_le_of_ne above (Ne.symm different)
              rw [lookup_eq_none_of_lt fun member memberOf =>
                String.lt_trans strictly (entryBelow member memberOf)] at atOther
              exact nomatch atOther
          have values : entry.2 = other.2 := by
            have found := same entry.1
            rw [lookup_cons, if_pos rfl, lookup_cons, if_pos keys] at found
            exact Option.some.inj found
          have rests : rest = others := by
            apply inductionHypothesis restSorted othersSorted
            intro key
            by_cases here : key = entry.1
            · have absent : List.lookup key rest = none :=
                lookup_eq_none_of_lt fun member memberOf => here ▸ entryBelow member memberOf
              have alsoAbsent : List.lookup key others = none :=
                lookup_eq_none_of_lt fun member memberOf =>
                  (here.trans keys) ▸ otherBelow member memberOf
              rw [absent, alsoAbsent]
            · have behind := same key
              rw [lookup_cons, if_neg here, lookup_cons, if_neg fun equal =>
                here (equal.trans keys.symm)] at behind
              exact behind
          have entries : entry = other := Prod.ext keys values
          rw [entries, rests]

end Entries

/-- A dictionary with string keys. -/
structure Dict (α : Type) where
  entries : Entries α
  sorted : entries.Sorted

namespace Dict

variable {α : Type}

@[ext]
theorem ext {first second : Dict α} (equal : first.entries = second.entries) :
    first = second := by
  cases first
  cases second
  cases equal
  rfl

/-- The dictionary without entries. -/
def empty : Dict α :=
  ⟨[], List.Pairwise.nil⟩

instance : Inhabited (Dict α) :=
  ⟨empty⟩

instance [DecidableEq α] : DecidableEq (Dict α) := fun first second =>
  decidable_of_iff (first.entries = second.entries)
    ⟨ext, fun equal => equal ▸ rfl⟩

/-- The dictionary with `key` bound to `value`. -/
def insert (dict : Dict α) (key : String) (value : α) : Dict α :=
  ⟨dict.entries.insert key value, dict.sorted.insert key value⟩

/-- The dictionary of a list of bindings, of which the last one of a key
counts. -/
def ofList (bindings : List (String × α)) : Dict α :=
  ⟨Entries.insertAll [] bindings, Entries.Sorted.insertAll List.Pairwise.nil bindings⟩

/-- The value bound to `key`. -/
def get? (dict : Dict α) (key : String) : Option α :=
  dict.entries.lookup key

/-- Whether `key` is bound. -/
def contains (dict : Dict α) (key : String) : Bool :=
  (dict.get? key).isSome

/-- The keys in order. -/
def keys (dict : Dict α) : List String :=
  dict.entries.map Prod.fst

/-- The number of bindings. -/
def size (dict : Dict α) : Nat :=
  dict.entries.length

/-- Binding a key changes what is bound to that key, and nothing else. -/
theorem get?_insert (dict : Dict α) (key other : String) (value : α) :
    (dict.insert key value).get? other = if other = key then some value else dict.get? other :=
  Entries.lookup_insert key other value dict.entries

@[simp]
theorem get?_insert_self (dict : Dict α) (key : String) (value : α) :
    (dict.insert key value).get? key = some value := by
  rw [get?_insert, if_pos rfl]

/-- A dictionary is built from its own bindings. -/
@[simp]
theorem ofList_entries (dict : Dict α) : ofList dict.entries = dict :=
  ext (@Entries.insertAll_of_sorted _ [] _ dict.sorted)

/-- Dictionaries with the same bindings are equal. -/
theorem ext_get? {first second : Dict α} (same : ∀ key, first.get? key = second.get? key) :
    first = second :=
  ext (first.sorted.ext second.sorted same)

end Dict

end Cascade
