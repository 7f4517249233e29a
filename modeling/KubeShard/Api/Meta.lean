import KubeShard.Apishard.Types

/-!
# Object metadata

The part of `metav1.ObjectMeta` that event filters and availability checks read.  A nil
map or slice and an empty one are different values; the comparisons below take them as
equal.
-/

namespace KubeShard

open Apishard

/-- `metav1.OwnerReference`. -/
structure OwnerReference where
  apiVersion : String
  kind : String
  name : String
  uid : UID
  controller : Option Bool := none
  blockOwnerDeletion : Option Bool := none
  deriving DecidableEq, Repr

/-- A Go map of strings: nil, or its entries, no key twice. -/
abbrev StringMap := Option (List (String × String))

/-- `metav1.ObjectMeta`. -/
structure ObjectMeta where
  name : String
  namespace_ : String := ""
  generation : Int := 0
  labels : StringMap := none
  annotations : StringMap := none
  ownerReferences : Option (List OwnerReference) := none
  deriving DecidableEq, Repr

/-- The value of a map at a key. -/
def StringMap.get? (entries : StringMap) (key : String) : Option String :=
  (entries.getD []).lookup key

/-- `maps.Equal`. -/
def mapsEqual (first second : StringMap) : Bool :=
  (first.getD []).length = (second.getD []).length &&
    (first.getD []).all fun entry => second.get? entry.1 = some entry.2

/-- `apiequality.Semantic.DeepEqual` of two slices of owner references. -/
def semanticDeepEqual (first second : Option (List OwnerReference)) : Bool :=
  first.getD [] = second.getD []

end KubeShard
