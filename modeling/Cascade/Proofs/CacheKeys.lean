import Cascade.Proofs.CanonicalBytes
import Cascade.Request

/-!
# Cache keys tell requests apart

A key is made of digests of canonical bytes and texts, which determine what they
were made from.  So requests with the same key are for the same stage and have the
same content, as long as the digest does not collide on them.
-/

namespace Cascade

open Json

/-- The digest tells the byte strings apart. -/
def Digest.Distinguishes (first second : ByteArray) : Prop :=
  ofBytes first = ofBytes second → first = second

namespace Request

/-- The digest does not collide on what is digested for the two requests. -/
structure CollisionFree (first second : Request) : Prop where
  tree : Digest.Distinguishes first.tree.canonicalBytes second.tree.canonicalBytes
  options : Digest.Distinguishes first.options.compact.toUTF8 second.options.compact.toUTF8
  project : Digest.Distinguishes first.project.compact.toUTF8 second.project.compact.toUTF8

/-- The numbers in the tree, the options and the project of a request. -/
def numbers (request : Request) : List Number :=
  request.tree.numbers ++ (request.options.numbers ++ request.project.numbers)

/-- The text of every header of the request's tree has a length of 64 bits. -/
def Framed (request : Request) : Prop :=
  ∀ node ∈ request.tree.listing, node.Framed

variable {first second : Request}

theorem tree_eq_of_digest_eq (collisionFree : first.CollisionFree second) (framed : first.Framed)
    (framedOther : second.Framed) (apart : Number.ToldApart first.numbers second.numbers)
    (same : first.tree.digest = second.tree.digest) : first.tree = second.tree := by
  have sameBytes := collisionFree.tree same
  exact Node.canonicalBytes_injective framed framedOther apart.left sameBytes

theorem options_eq_of_digest_eq (collisionFree : first.CollisionFree second)
    (apart : Number.ToldApart first.numbers second.numbers)
    (same : first.options.digest = second.options.digest) : first.options = second.options := by
  apply Options.compact_injective apart.right.left
  exact String.toByteArray_inj.mp (collisionFree.options same)

theorem project_eq_of_digest_eq (collisionFree : first.CollisionFree second)
    (apart : Number.ToldApart first.numbers second.numbers)
    (same : first.project.digest = second.project.digest) : first.project = second.project := by
  apply Project.compact_injective apart.right.right
  exact String.toByteArray_inj.mp (collisionFree.project same)

/-- Requests have the same key exactly if they are for the same stage and have the
same tree, options and project.  Behind this lie the canonical bytes, which
determine the tree, and the written forms of kinds and configured transforms,
which keep custom kinds and built-in ones apart, and bare transforms and detailed
ones. -/
theorem key_eq_iff (first second : Request) (stage other : String)
    (collisionFree : first.CollisionFree second) (framed : first.Framed)
    (framedOther : second.Framed) (apart : Number.ToldApart first.numbers second.numbers) :
    (first.key stage = second.key other ↔
      stage = other ∧ first.tree = second.tree ∧ first.options = second.options ∧
        first.project = second.project) ∧
    (∀ tree other : Node, (∀ node ∈ tree.listing, node.Framed) →
      (∀ node ∈ other.listing, node.Framed) → Number.ToldApart tree.numbers other.numbers →
        tree.canonicalBytes = other.canonicalBytes → tree = other) ∧
    (∀ name, ∀ kind ∈ Kind.builtin, (Kind.custom name).compact ≠ kind.compact) ∧
    ∀ bareId id options,
      (TransformEntry.bare bareId).compact ≠ (TransformEntry.detailed id options).compact := by
  constructor
  · constructor
    · intro same
      have sameStage : stage = other := congrArg Key.stage same
      have prints : first.fingerprint = second.fingerprint := congrArg Key.fingerprint same
      have sameTree := tree_eq_of_digest_eq collisionFree framed framedOther apart
        (congrArg Fingerprint.tree prints)
      have sameOptions := options_eq_of_digest_eq collisionFree apart
        (congrArg Fingerprint.options prints)
      have sameProject := project_eq_of_digest_eq collisionFree apart
        (congrArg Fingerprint.project prints)
      exact ⟨sameStage, sameTree, sameOptions, sameProject⟩
    · rintro ⟨rfl, sameTree, sameOptions, sameProject⟩
      rw [key, key, fingerprint, fingerprint, sameTree, sameOptions, sameProject]
  constructor
  · exact fun tree other => Node.canonicalBytes_injective
  constructor
  · exact fun name kind known => Kind.compact_custom_ne known name
  · exact TransformEntry.compact_bare_ne

/-- A request with a custom kind that is named like a built-in one, and with the
given transforms for a stage. -/
def linted (transforms : List TransformEntry) : Request where
  tree := Node.program [Node.ofKind (.custom "program"), Node.ofKind .call]
  project := ({} : Project).withTransforms "lint" transforms
  options := (Dict.empty.insert "limit" (.ofNat 10)).insert "depth" (.ofNat 1)

/-- The request with a bare transform. -/
def bareLinted : Request :=
  linted [.bare "a"]

/-- The request with a detailed transform without options. -/
def detailedLinted : Request :=
  linted [.detailed "a" Dict.empty]

theorem linted_collisionFree : bareLinted.CollisionFree detailedLinted := by
  refine ⟨fun _ => rfl, fun _ => rfl, fun same => ?_⟩
  exact absurd same (by decide +kernel)

theorem linted_framed (transforms : List TransformEntry) : (linted transforms).Framed := by
  have framed : ∀ node ∈ (linted []).tree.listing, node.Framed := by decide +kernel
  exact framed

theorem linted_apart : Number.ToldApart bareLinted.numbers detailedLinted.numbers := by
  decide +kernel

/-- A bare transform and a detailed one without options give requests different
keys. -/
theorem key_ne_of_detailed :
    bareLinted.CollisionFree detailedLinted ∧ bareLinted.Framed ∧ detailedLinted.Framed ∧
      Number.ToldApart bareLinted.numbers detailedLinted.numbers ∧
      bareLinted.key "lint" ≠ detailedLinted.key "lint" := by
  refine ⟨linted_collisionFree, linted_framed _, linted_framed _, linted_apart, fun same => ?_⟩
  have keys := (key_eq_iff bareLinted detailedLinted "lint" "lint" linted_collisionFree
    (linted_framed _) (linted_framed _) linted_apart).1
  rcases keys.mp same with ⟨_, _, _, sameProject⟩
  have lists := congrArg (fun project : Project => project.transformsOf "lint") sameProject
  exact nomatch lists

end Request

end Cascade
