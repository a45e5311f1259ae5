/-!
# Named values in order

Lists of named values that are kept in the order of their names, with each name once.
-/

namespace ParserConformance.Keyed

/-- The list with `v` under `key`, in place of what was there. -/
def insert {α : Type} (key : String) (v : α) : List (String × α) → List (String × α)
  | [] => [(key, v)]
  | (k, w) :: rest =>
    if key = k then (key, v) :: rest
    else if key < k then (key, v) :: (k, w) :: rest
    else (k, w) :: insert key v rest

/-- The list of given values; of two with one name the later one stays. -/
def ofList {α : Type} (entries : List (String × α)) : List (String × α) :=
  entries.foldl (fun kept (key, v) => insert key v kept) []

/-- The value under a name. -/
def find? {α : Type} (key : String) : List (String × α) → Option α
  | [] => none
  | (k, v) :: rest => if k = key then some v else find? key rest

end ParserConformance.Keyed
