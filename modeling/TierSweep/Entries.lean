/-!
# Entries in key order

A finite map as its entries in strictly increasing order of the keys. Keys are compared character by
character, which is also the order of their UTF-8 bytes.
-/

namespace TierSweep.Entries

variable {α : Type}

/-- Sets the value of a key, keeping the keys in strictly increasing order. -/
def insert (key : String) (value : α) : List (String × α) → List (String × α)
  | [] => [(key, value)]
  | (k, v) :: rest =>
    if key < k then (key, value) :: (k, v) :: rest
    else if key = k then (key, value) :: rest
    else (k, v) :: insert key value rest

/-- The entries of a list of assignments made in order: a later one replaces an earlier one. -/
def ofList (assignments : List (String × α)) : List (String × α) :=
  assignments.foldl (fun entries p => insert p.1 p.2 entries) []

/-- The value of a key. -/
def get? (key : String) (entries : List (String × α)) : Option α :=
  entries.lookup key

end TierSweep.Entries
