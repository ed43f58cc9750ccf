import ReleaseAudit.Value.Access

/-!
# Environments

The names that an expression may use. A name has one owner: it is never set twice.
-/

namespace ReleaseAudit

structure Environment where
  entries : Dict Value
deriving Inhabited, Repr

/-- A name that is already taken. -/
structure Collision where
  name : String
deriving DecidableEq, Repr

def Collision.message (c : Collision) : String :=
  "namespace `" ++ c.name ++ "` is already defined"

namespace Environment

def empty : Environment := ⟨[]⟩

def contains (env : Environment) (name : String) : Bool := env.entries.contains name

def get? (env : Environment) (name : String) : Option Value := env.entries.get? name

/-- A missing name is null. -/
def lookup (env : Environment) (name : String) : Value := (env.get? name).getD .null

def names (env : Environment) : List String := env.entries.keys

def size (env : Environment) : Nat := env.entries.length

def insert (env : Environment) (name : String) (value : Value) : Except Collision Environment :=
  if env.contains name then .error ⟨name⟩ else .ok ⟨env.entries.insert name value⟩

def insertAll (env : Environment) : List (String × Value) → Except Collision Environment
  | [] => .ok env
  | (name, value) :: rest => do (← env.insert name value).insertAll rest

def toValue (env : Environment) : Value := .map env.entries

end Environment

end ReleaseAudit
