import Sentinel.Dig.Settings
import Sentinel.Dig.Tree
import Sentinel.Text.Blank
import Sentinel.Text.Quoted
import Sentinel.Content.Repository
/-!
# Requests for digs

A request names a root and says what to look for. It is read from parameters, each a name with a
list of texts; what is not given is taken from settings.

Correspondence (operation of the component ↔ definition):
  `DigRequest.new`, `from_params` ↔ `DigRequest.ofSettings`, `DigRequest.ofParams`
  `first`, `parse_number`         ↔ `DigRequest.first?`, `DigRequest.integer?`
  `TreeDigger.dig_request`        ↔ `Dig.request`
-/

namespace Sentinel

/-- The parameters of a request: of each name the texts that were given. -/
abbrev RequestParams := KeyMap (List String)

structure DigRequest where
  path : String
  pattern : PathPattern
  propertyTypes : List PropertyType
  maxLength : Int
  maxDepth : Int

namespace DigRequest

/-- The request for a dig from a path on, all else as the settings say. -/
def ofSettings [SizeLimit] (path : String) (settings : TreeDigSettings) :
    Except DispatchError DigRequest := do
  let pattern ← PathPattern.ofSource? settings.pathPattern
  return {
    path, pattern
    propertyTypes := PropertyType.ordered settings.propertyTypes
    maxLength := settings.maxLength
    maxDepth := settings.maxDepth }

def first? (params : RequestParams) (name : String) : Option String := (params.get? name).bind (·.head?)

/-- An integer parameter, which may have blanks around it and must lie within bounds. -/
def integer? (parameter value : String) (lo hi : Int) : Except DispatchError Int :=
  match Text.signedNumeral? (Text.trim value).toList with
  | some i => if lo ≤ i ∧ i ≤ hi then .ok i else .error (.invalidValue parameter value)
  | none => .error (.invalidValue parameter value)

def patternOf [SizeLimit] (params : RequestParams) (default : PathPattern) :
    Except DispatchError PathPattern :=
  match first? params "pattern" with
  | some source => PathPattern.ofSource? source
  | none => .ok default

def typesOf (params : RequestParams) (default : List PropertyType) :
    Except DispatchError (List PropertyType) :=
  match params.get? "propertyTypes" with
  | none | some [] => .ok default
  | some names =>
    match PropertyType.parseAll names with
    | .ok types => .ok types
    | .error _ => .error (.invalidValue "propertyTypes" (Text.quotedList names))

def limitOf (params : RequestParams) (parameter : String) (lo hi default : Int) : Except DispatchError Int :=
  match first? params parameter with
  | some value => integer? parameter value lo hi
  | none => .ok default

/-- The request that parameters stand for. The first fault in the order of path, pattern, types and
limits is reported. -/
def ofParams [SizeLimit] (params : RequestParams) (settings : TreeDigSettings) :
    Except DispatchError DigRequest := do
  match first? params "path" with
  | none => throw (.validation "path" "Mandatory parameter path is missing")
  | some path =>
    let r ← ofSettings path settings
    let pattern ← patternOf params r.pattern
    let propertyTypes ← typesOf params r.propertyTypes
    let maxLength ←
      limitOf params "maxLength" Int64.minValue.toInt Int64.maxValue.toInt r.maxLength
    let maxDepth ← limitOf params "maxDepth" Int32.minValue.toInt Int32.maxValue.toInt r.maxDepth
    Limit.check "maxLength" maxLength
    Limit.check "maxDepth" maxDepth
    return { path, pattern, propertyTypes, maxLength, maxDepth }

/-- What the dig looks for. -/
def scope (r : DigRequest) : DigScope where
  accepts := r.pattern.accepts
  types := r.propertyTypes
  maxLength := r.maxLength
  maxDepth := r.maxDepth

end DigRequest

def Dig.request (session : Session) (r : DigRequest) : Digs DigSummary := do
  match session.node? r.path with
  | .error _ => throw (.validation "path" ("No node at given path found: " ++ r.path))
  | .ok root => tree root r.scope

end Sentinel
