/-!
# Kinds of nodes

A few kinds are known to every grammar; all others carry the name that their
grammar gives them.  A custom kind may be named like a built-in one and is still
a different kind.
-/

namespace Cascade

/-- The kind of a tree node. -/
inductive Kind where
  | program
  | function
  | block
  | statement
  | expression
  | call
  | identifier
  | literal
  | custom (name : String)
deriving DecidableEq

namespace Kind

/-- The name by which a kind is shown. -/
def name : Kind → String
  | program => "program"
  | function => "function"
  | block => "block"
  | statement => "statement"
  | expression => "expression"
  | call => "call"
  | identifier => "identifier"
  | literal => "literal"
  | custom name => name

/-- The built-in kinds in their order. -/
def builtin : List Kind :=
  [program, function, block, statement, expression, call, identifier, literal]

/-- The place of a kind in the order of kinds; custom kinds share the last. -/
def place (kind : Kind) : Nat :=
  builtin.idxOf kind

/-- The order of kinds: the built-in ones first, custom ones after them by
name. -/
def le : Kind → Kind → Bool
  | custom first, custom second => decide (first ≤ second)
  | first, second => first.place ≤ second.place

end Kind

end Cascade
