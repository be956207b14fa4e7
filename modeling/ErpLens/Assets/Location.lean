import ErpLens.Json.Read
import ErpLens.Json.Write
import ErpLens.Value.Arithmetic

/-!
# Locations

A location is drawn on a map as a collection of features. Their area is that of polygons with holes
on a sphere, and of circles.
-/

namespace ErpLens.Assets.Location

def earthRadius : Float := 6378137

def pi : Float := 3.141592653589793

def radians (degrees : Float) : Float := degrees * (pi / 180)

structure Point where
  longitude : Float
  latitude : Float

def corners (points : List Point) : List (Point × Point × Point) :=
  let next := points.drop 1 ++ points.take 1
  let afterNext := points.drop 2 ++ points.take 2
  points.zip (next.zip afterNext)

def ringArea (points : List Point) : Float :=
  if points.length > 2 then
    let sum := (corners points).foldl (fun sum (before, at_, after) =>
      sum + (radians after.longitude - radians before.longitude) * Float.sin (radians at_.latitude))
      0
    sum * earthRadius * earthRadius / 2
  else 0

def coordinate (value : Value) (i : Nat) : Outcome Float := do
  return (← (← value.item (.nat i)).number).toFloat

def pointsOf (ring : Value) : Outcome (List Point) := do
  let points ← ring.items
  if points.length ≤ 2 then return points.map fun _ => ⟨0, 0⟩
  points.mapM fun point => return ⟨← coordinate point 0, ← coordinate point 1⟩

def areaOfRing (ring : Value) : Outcome Value := do
  return .float (ringArea (← pointsOf ring))

def areaOfPolygon (rings : Value) : Outcome Value := do
  if !rings.truth then return .int 0
  match ← rings.items with
  | [] => return .int 0
  | outer :: holes =>
    let area := (ringArea (← pointsOf outer)).abs
    return .float (← holes.foldlM (fun area hole => do
      return area - (ringArea (← pointsOf hole)).abs) area)

def areaOfFeature (feature : Value) : Outcome Value := do
  let geometry ← feature.getD (.str "geometry") (.ofFields [])
  let kind ← geometry.get "type"
  if kind.isText "Polygon" then areaOfPolygon (← geometry.get "coordinates")
  else if kind.isText "Point" then
    let properties ← feature.get "properties"
    if (← properties.get "point_type").isText "circle" then
      let radius := (← (← properties.get "radius").number).toFloat
      return .float (pi * Float.pow radius 2)
    else return .int 0
  else return .int 0

def areaOfFeatures (features : Value) : Outcome Value := do
  (← features.items).foldlM (fun sum feature => do
    Value.plus sum (← areaOfFeature feature)) (.float 0)

/-! ## Features -/

def features (location : Value) : Outcome Value := do
  let drawn ← location.field "location"
  if !drawn.truth then return .list []
  match ← (← Json.loadValue drawn).get "features" with
  | .list found => return .list found
  | other => Json.loadValue other

def markFeatures (location : Value) : Outcome Value := do
  let own ← (← (← features location).items).filterM fun feature => do
    return !(← (← feature.get "properties").get "child_feature").truth
  let texts ← own.mapM fun feature => do
    let properties ← feature.key "properties"
    let properties ← properties.setKeys [("child_feature", .bool true),
      ("feature_of", ← location.field "location_name")]
    return Value.str (Json.spaced (← feature.setKey "properties" properties))
  return .list texts

def splitFeatures (location part : Value) : Outcome (Value × Value) := do
  let marked ← (← (← features location).items).mapM fun feature => do
    let owner ← (← feature.get "properties").get "feature_of"
    return (owner == part, Value.str (Json.spaced feature))
  let (parts, others) := marked.partition Prod.fst
  return (.list (parts.map Prod.snd), .list (others.map Prod.snd))

end ErpLens.Assets.Location
