import Cascade.Json.Reader

/-!
# Reading back what was written

A reader recovers data from a value if it answers them for the value's document as long
as it may enter all of the containers in it.  Readers of lists, dictionaries and records
recover what they are made for if the readers of the parts do.

Free-form values are recovered as they are, provided that the members of their objects
are in key order.  This is how objects are kept: everything that is read, and every
object that is made of members, is in order.
-/

namespace Cascade

/-- What holds of all bindings and of all entries holds of the entries with the bindings
added. -/
theorem Entries.forall_insertAll {α : Type} {holds : α → Prop} {bindings entries : Entries α}
    (ofBindings : ∀ binding ∈ bindings, holds binding.2)
    (ofEntries : ∀ entry ∈ entries, holds entry.2) :
    ∀ entry ∈ entries.insertAll bindings, holds entry.2 := by
  induction bindings generalizing entries with
  | nil => exact ofEntries
  | cons binding rest inductionHypothesis =>
      obtain ⟨ofBinding, ofRest⟩ := List.forall_mem_cons.mp ofBindings
      refine inductionHypothesis ofRest fun entry member => ?_
      rcases Entries.mem_insert member with rfl | before
      · exact ofBinding
      · exact ofEntries entry before

namespace Json

/-! ## Values in key order -/

namespace Value

mutual

/-- The members of every object in the value are in key order. -/
def Ordered : Value → Prop
  | array items => OrderedItems items
  | object members => Entries.Sorted members ∧ OrderedMembers members
  | _ => True

/-- All items of an array are ordered. -/
def OrderedItems : List Value → Prop
  | [] => True
  | item :: rest => Ordered item ∧ OrderedItems rest

/-- All members of an object are ordered in themselves. -/
def OrderedMembers : List (String × Value) → Prop
  | [] => True
  | (_, value) :: rest => Ordered value ∧ OrderedMembers rest

end

theorem orderedItems_iff {items : List Value} :
    OrderedItems items ↔ ∀ item ∈ items, item.Ordered := by
  induction items with
  | nil => simp [OrderedItems]
  | cons item rest inductionHypothesis => simp [OrderedItems, inductionHypothesis]

theorem orderedMembers_iff {members : List (String × Value)} :
    OrderedMembers members ↔ ∀ member ∈ members, member.2.Ordered := by
  induction members with
  | nil => simp [OrderedMembers]
  | cons member rest inductionHypothesis => simp [OrderedMembers, inductionHypothesis]

/-- Objects are made of ordered members in key order. -/
theorem ordered_ofMembers {members : List (String × Value)}
    (ordered : ∀ member ∈ members, member.2.Ordered) : (ofMembers members).Ordered := by
  refine ⟨Entries.Sorted.insertAll List.Pairwise.nil members, orderedMembers_iff.mpr ?_⟩
  exact Entries.forall_insertAll ordered fun _ member => nomatch member

end Value

/-! ## Documents of values -/

namespace Document

theorem ofItems_eq (items : List Value) : ofItems items = items.map ofValue := by
  induction items with
  | nil => rfl
  | cons item rest inductionHypothesis => rw [ofItems, inductionHypothesis, List.map_cons]

theorem ofMembers_eq (members : List (String × Value)) :
    ofMembers members = members.map fun member => (some member.1, ofValue member.2) := by
  induction members with
  | nil => rfl
  | cons member rest inductionHypothesis => rw [ofMembers, inductionHypothesis, List.map_cons]

theorem nesting_le_of_item {items : List Value} {item : Value} (member : item ∈ items) :
    (ofValue item).nesting ≤ nestingItems (ofItems items) := by
  induction items with
  | nil => exact nomatch member
  | cons first rest inductionHypothesis =>
      rw [ofItems, nestingItems]
      rcases List.mem_cons.mp member with rfl | there
      · exact Nat.le_max_left _ _
      · exact Nat.le_trans (inductionHypothesis there) (Nat.le_max_right _ _)

theorem nesting_le_of_member {members : List (String × Value)} {member : String × Value}
    (listed : member ∈ members) :
    (ofValue member.2).nesting ≤ nestingMembers (ofMembers members) := by
  induction members with
  | nil => exact nomatch listed
  | cons first rest inductionHypothesis =>
      rw [ofMembers, nestingMembers]
      rcases List.mem_cons.mp listed with rfl | there
      · exact Nat.le_max_left _ _
      · exact Nat.le_trans (inductionHypothesis there) (Nat.le_max_right _ _)

end Document

/-- Where every item is read, the list of items is read. -/
theorem mapM_eq_some_map {α β : Type} {read : α → Option β} {answer : α → β} {items : List α}
    (reads : ∀ item ∈ items, read item = some (answer item)) :
    items.mapM read = some (items.map answer) := by
  induction items with
  | nil => rfl
  | cons item rest inductionHypothesis =>
      rw [List.mapM_cons, reads item List.mem_cons_self,
        inductionHypothesis fun other member => reads other (List.mem_cons_of_mem item member)]
      rfl

/-- What a list of answers holds was answered for one of the items. -/
theorem exists_of_mem_mapM {α β : Type} {read : α → Option β} {items : List α} {answers : List β}
    (reads : items.mapM read = some answers) {answer : β} (member : answer ∈ answers) :
    ∃ item ∈ items, read item = some answer := by
  induction items generalizing answers with
  | nil =>
      obtain rfl : [] = answers := Option.some.inj reads
      exact nomatch member
  | cons item rest inductionHypothesis =>
      rw [List.mapM_cons] at reads
      obtain ⟨first, readFirst, reads⟩ := Option.bind_eq_some_iff.mp reads
      obtain ⟨others, readOthers, reads⟩ := Option.bind_eq_some_iff.mp reads
      obtain rfl : first :: others = answers := Option.some.inj reads
      rcases List.mem_cons.mp member with rfl | there
      · exact ⟨item, List.mem_cons_self, readFirst⟩
      · obtain ⟨other, listed, readOther⟩ := inductionHypothesis readOthers there
        exact ⟨other, List.mem_cons_of_mem item listed, readOther⟩

/-- What holds of everything that a reader answers holds of the members read by it. -/
theorem forall_of_mapM_members {α : Type} {holds : α → Prop} {read : Document → Option α}
    {members : List (Option String × Document)} {entries : Entries α}
    (answers : ∀ document data, read document = some data → holds data)
    (reads : members.mapM (fun (key, member) =>
      key.bind fun key => (read member).map fun value => (key, value)) = some entries) :
    ∀ entry ∈ entries, holds entry.2 := by
  intro entry listed
  obtain ⟨member, _, readMember⟩ := exists_of_mem_mapM reads listed
  obtain ⟨_, _, readValue⟩ := Option.bind_eq_some_iff.mp readMember
  obtain ⟨data, answered, rfl⟩ := Option.map_eq_some_iff.mp readValue
  exact answers member.2 data answered

/-- Whatever is read as a value is in key order. -/
theorem Document.ordered_of_value? {budget : Nat} {document : Document} {value : Value}
    (reads : document.value? budget = some value) : value.Ordered := by
  induction budget using Nat.strongRecOn generalizing document value with
  | ind budget inductionHypothesis =>
      unfold value? at reads
      split at reads
      · obtain rfl := Option.some.inj reads
        trivial
      · obtain rfl := Option.some.inj reads
        trivial
      · obtain ⟨number, _, rfl⟩ := Option.map_eq_some_iff.mp reads
        trivial
      · obtain ⟨text, _, rfl⟩ := Option.map_eq_some_iff.mp reads
        trivial
      · exact nomatch reads
      · exact nomatch reads
      · obtain ⟨items, readItems, rfl⟩ := Option.map_eq_some_iff.mp reads
        refine Value.orderedItems_iff.mpr fun item listed => ?_
        obtain ⟨written, _, readItem⟩ := exists_of_mem_mapM readItems listed
        exact inductionHypothesis _ (Nat.lt_succ_self _) readItem
      · obtain ⟨entries, readMembers, rfl⟩ := Option.map_eq_some_iff.mp reads
        refine Value.ordered_ofMembers (forall_of_mapM_members ?_ readMembers)
        exact fun _ _ readMember => inductionHypothesis _ (Nat.lt_succ_self _) readMember

/-! ## Readers that recover what was written -/

namespace Reader

variable {α : Type}

/-- The reader answers the data for the document of the value, if it may enter all of
its containers. -/
def Recovers (read : Reader α) (value : Value) (data : α) : Prop :=
  ∀ budget, (Document.ofValue value).nesting ≤ budget →
    read budget (Document.ofValue value) = some data

theorem Recovers.ofValue? {read : Reader α} {value : Value} {data : α}
    (recovers : Recovers read value data) : Reader.ofValue? read value = some data :=
  recovers _ (Nat.le_refl _)

/-- A list is recovered from an array if its items are recovered. -/
theorem recovers_list {read : Reader α} {write : α → Value} {items : List α}
    (recovers : ∀ item ∈ items, Recovers read (write item) item) :
    Recovers (list read) (.array (items.map write)) items := by
  intro budget enough
  cases budget with
  | zero => exact absurd enough (Nat.not_succ_le_zero _)
  | succ budget =>
      have within := Nat.le_of_succ_le_succ enough
      have reads : ∀ item ∈ items, read budget (Document.ofValue (write item)) = some item :=
        fun item member => recovers item member budget <|
          Nat.le_trans (Document.nesting_le_of_item (List.mem_map_of_mem member)) within
      rw [Document.ofValue, list, Document.ofItems_eq, List.map_map, List.mapM_map]
      exact (mapM_eq_some_map reads).trans (congrArg some (List.map_id' items))

/-- The entries of a dictionary are read from the members of an object, if the data in
them are recovered. -/
theorem mapM_ofMembers {read : Reader α} {write : α → Value} {entries : Entries α} {budget : Nat}
    (recovers : ∀ entry ∈ entries, Recovers read (write entry.2) entry.2)
    (within : Document.nestingMembers
      (Document.ofMembers (entries.map fun entry => (entry.1, write entry.2))) ≤ budget) :
    (Document.ofMembers (entries.map fun entry => (entry.1, write entry.2))).mapM
        (fun (key, member) =>
          key.bind fun key => (read budget member).map fun value => (key, value)) =
      some entries := by
  have reads : ∀ entry ∈ entries,
      (read budget (Document.ofValue (write entry.2))).map (fun value => (entry.1, value)) =
        some entry := by
    intro entry member
    have listed : (entry.1, write entry.2) ∈ entries.map fun entry => (entry.1, write entry.2) :=
      List.mem_map.mpr ⟨entry, member, rfl⟩
    rw [recovers entry member budget (Nat.le_trans (Document.nesting_le_of_member listed) within)]
    rfl
  rw [Document.ofMembers_eq, List.map_map, List.mapM_map]
  exact (mapM_eq_some_map reads).trans (congrArg some (List.map_id' entries))

/-- A dictionary is recovered from an object if the data in it are recovered. -/
theorem recovers_dict {read : Reader α} {write : α → Value} {dict : Dict α}
    (recovers : ∀ entry ∈ dict.entries, Recovers read (write entry.2) entry.2) :
    Recovers (Reader.dict read) (.object (dict.entries.map fun entry => (entry.1, write entry.2)))
      dict := by
  intro budget enough
  cases budget with
  | zero => exact absurd enough (Nat.not_succ_le_zero _)
  | succ budget =>
      rw [Document.ofValue, Reader.dict]
      refine (congrArg (Option.map Dict.ofList)
        (mapM_ofMembers recovers (Nat.le_of_succ_le_succ enough))).trans ?_
      rw [Option.map_some, Dict.ofList_entries]

/-- What holds of everything that a reader answers holds of a list read by it. -/
theorem forall_of_list {holds : α → Prop} {read : Reader α} {budget : Nat} {document : Document}
    {answered : List α}
    (answers : ∀ smaller < budget, ∀ document data, read smaller document = some data → holds data)
    (reads : list read budget document = some answered) : ∀ data ∈ answered, holds data := by
  intro data member
  unfold list at reads
  split at reads
  next budget items =>
    obtain ⟨item, _, readItem⟩ := exists_of_mem_mapM reads member
    exact answers budget (Nat.lt_succ_self budget) item data readItem
  next => exact nomatch reads

/-- What holds of everything that a reader answers holds of a dictionary read by it. -/
theorem forall_of_dict {holds : α → Prop} {read : Reader α} {budget : Nat} {document : Document}
    {dict : Dict α}
    (answers : ∀ smaller < budget, ∀ document data, read smaller document = some data → holds data)
    (reads : Reader.dict read budget document = some dict) :
    ∀ entry ∈ dict.entries, holds entry.2 := by
  unfold Reader.dict at reads
  split at reads
  next budget members =>
    obtain ⟨entries, readMembers, rfl⟩ := Option.map_eq_some_iff.mp reads
    have ofEntries : ∀ entry ∈ entries, holds entry.2 :=
      forall_of_mapM_members (answers budget (Nat.lt_succ_self budget)) readMembers
    exact Entries.forall_insertAll ofEntries fun _ member => nomatch member
  next => exact nomatch reads

mutual

/-- Free-form values in key order are recovered as they are. -/
theorem recovers_value (value : Value) (ordered : value.Ordered) :
    Recovers Reader.value value value := by
  intro budget enough
  cases value with
  | null => simp [Reader.value, Document.ofValue, Document.value?]
  | bool value => simp [Reader.value, Document.ofValue, Document.value?]
  | number value => simp [Reader.value, Document.ofValue, Document.value?]
  | string value => simp [Reader.value, Document.ofValue, Document.value?]
  | array items =>
      cases budget with
      | zero => exact absurd enough (Nat.not_succ_le_zero _)
      | succ budget =>
          have read : Recovers (list Reader.value) (.array (items.map id)) items :=
            recovers_list (recovers_items items ordered)
          rw [List.map_id] at read
          rw [Reader.value, Document.ofValue, Document.value?]
          exact congrArg (Option.map Value.array) (read (budget + 1) enough)
  | object members =>
      cases budget with
      | zero => exact absurd enough (Nat.not_succ_le_zero _)
      | succ budget =>
          obtain ⟨sorted, orderedMembers⟩ := ordered
          have same : members.map (fun entry => (entry.1, id entry.2)) = members :=
            List.map_id' members
          have read := mapM_ofMembers (recovers_members members orderedMembers)
            (same.symm ▸ Nat.le_of_succ_le_succ enough)
          rw [same] at read
          rw [Reader.value, Document.ofValue, Document.value?]
          refine (congrArg (Option.map Value.ofMembers) read).trans ?_
          rw [Option.map_some, Value.ofMembers]
          exact congrArg (fun entries => some (Value.object entries))
            (@Entries.insertAll_of_sorted _ [] members sorted)

theorem recovers_items (items : List Value) (ordered : Value.OrderedItems items) :
    ∀ item ∈ items, Recovers Reader.value item item := by
  cases items with
  | nil => exact fun _ member => nomatch member
  | cons item rest =>
      have first := recovers_value item ordered.1
      have others := recovers_items rest ordered.2
      exact List.forall_mem_cons.mpr ⟨first, others⟩

theorem recovers_members (members : List (String × Value))
    (ordered : Value.OrderedMembers members) :
    ∀ member ∈ members, Recovers Reader.value member.2 member.2 := by
  cases members with
  | nil => exact fun _ member => nomatch member
  | cons member rest =>
      obtain ⟨key, value⟩ := member
      have first := recovers_value value ordered.1
      have others := recovers_members rest ordered.2
      exact List.forall_mem_cons.mpr ⟨first, others⟩

end

/-! ## Records -/

/-- An object in key order has at most one member with a name. -/
theorem filter_ofMembers {entries : Entries Value} (sorted : entries.Sorted) (name : String) :
    (Document.ofMembers entries).filter (fun member => member.1 == some name) =
      ((entries.lookup name).map fun value => (some name, Document.ofValue value)).toList := by
  induction entries with
  | nil => rfl
  | cons entry rest inductionHypothesis =>
      obtain ⟨above, restSorted⟩ := List.pairwise_cons.mp sorted
      have others := inductionHypothesis restSorted
      rw [Document.ofMembers, Entries.lookup_cons]
      by_cases here : name = entry.1
      · rw [Entries.lookup_eq_none_of_lt (here ▸ above)] at others
        rw [List.filter_cons_of_pos (by simp [here]), others, if_pos here]
        simp [here]
      · simp [here, Ne.symm here, others]

theorem member?_ofMembers {entries : Entries Value} (sorted : entries.Sorted) (name : String) :
    member? (Document.ofMembers entries) name =
      some ((entries.lookup name).map Document.ofValue) := by
  rw [member?, filter_ofMembers sorted]
  cases entries.lookup name <;> rfl

/-- Among bindings of different keys every one counts. -/
theorem lookup_insertAll_of_mem {bindings : Entries α} {binding : String × α}
    (distinct : (bindings.map Prod.fst).Nodup) (listed : binding ∈ bindings) :
    (Entries.insertAll [] bindings).lookup binding.1 = some binding.2 := by
  obtain ⟨before, behind, rfl⟩ := List.append_of_mem listed
  have apart : ∀ other ∈ behind, binding.1 ≠ other.1 := by
    rw [List.map_append, List.map_cons] at distinct
    intro other member same
    have notBehind := (List.nodup_cons.mp (List.nodup_append.mp distinct).2.1).1
    exact notBehind (same ▸ List.mem_map_of_mem member)
  have last : (before ++ binding :: behind).reverse.lookup binding.1 = some binding.2 := by
    refine List.lookup_eq_some_iff.mpr ⟨behind.reverse, before.reverse, by simp, ?_⟩
    intro other member
    simpa using apart other (List.mem_reverse.mp member)
  rw [Entries.lookup_insertAll, last, Option.some_or]

/-- The fields of a record are found in the object that is made of them. -/
theorem fields?_ofMembers {members : List (String × Value)}
    (distinct : (members.map Prod.fst).Nodup) :
    fields? (members.map Prod.fst) (Document.ofValue (.ofMembers members)) =
      some (members.map fun member => some (Document.ofValue member.2)) := by
  have sorted : (Entries.insertAll [] members).Sorted := .insertAll List.Pairwise.nil members
  have named : ((Document.ofMembers (Entries.insertAll [] members)).all fun member =>
      member.1.isSome) = true := by
    simp [Document.ofMembers_eq]
  rw [Value.ofMembers, Document.ofValue, fields?, if_pos named, List.mapM_map]
  refine mapM_eq_some_map fun member listed => ?_
  rw [Function.comp_apply, member?_ofMembers sorted, lookup_insertAll_of_mem distinct listed]
  rfl

/-- The fields of a record nest less deeply than the record. -/
theorem nesting_le_of_field {members : List (String × Value)} {budget : Nat}
    (distinct : (members.map Prod.fst).Nodup)
    (enough : (Document.ofValue (.ofMembers members)).nesting ≤ budget + 1) :
    ∀ member ∈ members, (Document.ofValue member.2).nesting ≤ budget := by
  intro member listed
  have kept : member ∈ Entries.insertAll [] members := by
    obtain ⟨before, behind, same, _⟩ :=
      List.lookup_eq_some_iff.mp (lookup_insertAll_of_mem distinct listed)
    rw [same]
    exact List.mem_append_right _ List.mem_cons_self
  exact Nat.le_trans (Document.nesting_le_of_member kept) (Nat.le_of_succ_le_succ enough)

/-- A record is recovered from the object that is made of its fields, if it is read from
them. -/
theorem recovers_record {members : List (String × Value)}
    (distinct : (members.map Prod.fst).Nodup)
    {read : Nat → List (Option Document) → Option α} {data : α}
    (reads : ∀ budget,
      (∀ member ∈ members, (Document.ofValue member.2).nesting ≤ budget) →
        read budget (members.map fun member => some (Document.ofValue member.2)) = some data) :
    Recovers (record (members.map Prod.fst) read) (.ofMembers members) data := by
  intro budget enough
  cases budget with
  | zero => exact absurd enough (Nat.not_succ_le_zero _)
  | succ budget =>
      rw [record, fields?_ofMembers distinct]
      exact reads budget (nesting_le_of_field distinct enough)

/-! ## Fields -/

theorem required_some (read : Document → Option α) (document : Document) :
    required read (some document) = read document := by
  rw [required, Option.bind_some]

theorem natBelow_ofNat {bound number : Nat} (below : number < bound) :
    natBelow bound (Document.ofValue (.ofNat number)) = some number := by
  simp [Value.ofNat, Document.ofValue, natBelow, below]

theorem string_ofValue (text : String) :
    string (Document.ofValue (.string text)) = some text := by
  rw [Document.ofValue, string]

/-- Data that may be absent are read, if they are when they are present. -/
theorem optionalField_orNull {read : Document → Option α} {write : α → Value}
    (present : ∀ data, Document.ofValue (write data) ≠ .null) {data? : Option α}
    (reads : ∀ data ∈ data?, read (Document.ofValue (write data)) = some data) :
    optionalField read (some (Document.ofValue (.orNull (data?.map write)))) = some data? := by
  cases data? with
  | none => simp [optionalField, withDefault, Value.orNull, Document.ofValue, optional]
  | some data =>
      have read := reads data rfl
      simp only [optionalField, withDefault, Option.map_some, Value.orNull]
      rw [optional, read]
      · rfl
      · exact present data

end Reader

end Json

end Cascade
