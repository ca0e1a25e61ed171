import Holidays.Resolution.Merge

namespace Holidays

structure Resolver where
  catalog : Catalog
  cache : List (String × Specification)

namespace Resolver

def of (catalog : Catalog) : Resolver := ⟨catalog, []⟩

def resolve (r : Resolver) (id : String) : Except ResolutionError Specification × Resolver :=
  match Keyed.find? Prod.fst id r.cache with
  | some (_, s) => (.ok s, r)
  | none =>
    match r.catalog.resolve id with
    | .error e => (.error e, r)
    | .ok s => (.ok s, { r with cache := r.cache ++ [(id, s)] })

def clear (r : Resolver) : Resolver := { r with cache := [] }

def cachedIds (r : Resolver) : List String :=
  (r.cache.map Prod.fst).mergeSort fun a b => decide (a ≤ b)

end Resolver

end Holidays
