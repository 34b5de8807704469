import Cascade.Cache.Basic

/-!
# The caches of a pipeline

One cache for each stage, in the order of the stages.  Outcomes are dropped by
what they depend on, in all caches at once.
-/

namespace Cascade

/-- The caches of the stages. -/
structure Memory where
  caches : List Cache

namespace Memory

/-- Empty caches for stages with the given names. -/
def ofStages (stages : List String) : Memory :=
  ⟨stages.map Cache.empty⟩

/-- The cache of the stage at an index. -/
def cache? (memory : Memory) (index : Nat) : Option Cache :=
  memory.caches[index]?

/-- The index of the first cache of the stage with the given name. -/
def indexOf? (memory : Memory) (stage : String) : Option Nat :=
  memory.caches.findIdx? fun cache => cache.stage == stage

/-- The cache of the stage with the given name. -/
def named? (memory : Memory) (stage : String) : Option Cache :=
  memory.caches.find? fun cache => cache.stage == stage

/-- The caches with another one at an index. -/
def setCache (memory : Memory) (index : Nat) (cache : Cache) : Memory :=
  ⟨memory.caches.set index cache⟩

/-- Drops the outcomes in a list of caches that depend on `dependency`, and
answers how many there were. -/
def forgetIn (dependency : String) : List Cache → Nat × List Cache
  | [] => (0, [])
  | cache :: rest =>
      match cache.retain fun _ outcome => !outcome.dependsOn dependency,
          forgetIn dependency rest with
      | (dropped, cache), (others, rest) => (dropped + others, cache :: rest)

/-- Drops every outcome, in every stage, that depends on `dependency`, and
answers how many there were. -/
def forget (memory : Memory) (dependency : String) : Nat × Memory :=
  match forgetIn dependency memory.caches with
  | (dropped, caches) => (dropped, ⟨caches⟩)

/-- Drops everything. -/
def clear (memory : Memory) : Memory :=
  ⟨memory.caches.map Cache.clear⟩

/-- The figures of every cache. -/
def figures (memory : Memory) : List Figures :=
  memory.caches.map Cache.figures

/-- The number of outcomes in all caches. -/
def size (memory : Memory) : Nat :=
  memory.caches.foldr (fun cache total => cache.size + total) 0

end Memory

end Cascade
