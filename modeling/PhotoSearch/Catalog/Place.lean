/-! Places inside structured data. -/

namespace PhotoSearch

inductive PathStep where
  | field (name : String)
  | index (i : Nat)
deriving DecidableEq

/-- A place in one of several pieces of data: the number of the piece and the path into it. -/
structure Place where
  origin : Nat
  path : List PathStep
deriving DecidableEq

namespace Place

def root (origin : Nat) : Place := ⟨origin, []⟩

def field (p : Place) (name : String) : Place := { p with path := p.path ++ [.field name] }

def index (p : Place) (i : Nat) : Place := { p with path := p.path ++ [.index i] }

end Place

end PhotoSearch
