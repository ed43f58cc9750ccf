/-!
# Dictionaries

A dictionary is a list of entries in ascending order of their keys, each key once. Texts are ordered
by code points, which is also the order of their UTF-8 bytes.
-/

namespace ReleaseAudit

abbrev Dict (α : Type) := List (String × α)

namespace Dict

variable {α : Type}

/-- Sets the value of `key`. -/
def insert (key : String) (value : α) : Dict α → Dict α
  | [] => [(key, value)]
  | (k, v) :: rest =>
    if key = k then (key, value) :: rest
    else if key < k then (key, value) :: (k, v) :: rest
    else (k, v) :: insert key value rest

def get? (d : Dict α) (key : String) : Option α := d.lookup key

def contains (d : Dict α) (key : String) : Bool := (d.get? key).isSome

def keys (d : Dict α) : List String := d.map Prod.fst

def values (d : Dict α) : List α := d.map Prod.snd

/-- Of two entries with the same key the later one counts. -/
def ofList (entries : List (String × α)) : Dict α :=
  entries.foldl (fun d (k, v) => insert k v d) []

/-- Whether the keys ascend strictly. -/
def Sorted (d : Dict α) : Prop := d.Pairwise fun a b => a.1 < b.1

theorem get?_insert_self (d : Dict α) (key : String) (value : α) :
    (insert key value d).get? key = some value := by
  induction d with
  | nil => simp [insert, get?]
  | cons e rest ih =>
    obtain ⟨k, v⟩ := e
    simp only [insert]
    split
    · simp [get?]
    · split
      · simp [get?]
      · rename_i hne _
        have hk : (key == k) = false := by simpa using hne
        simpa only [get?, List.lookup_cons, hk] using ih

end Dict

end ReleaseAudit
