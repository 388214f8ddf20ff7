import Sentinel.Pattern.Term
import Sentinel.Unicode.Age
import Sentinel.Unicode.GraphemeBreak
import Sentinel.Unicode.Script
import Sentinel.Unicode.ScriptExtension
import Sentinel.Unicode.SentenceBreak
import Sentinel.Unicode.WordBreak
/-!
# Properties of characters in patterns

What the names in a property escape stand for. A name alone is that of a yes-or-no property, a
general category, a group of categories or a script; with a value it is one of seven properties.
-/

namespace Sentinel.Pattern

open Unicode (looseName)

/-- The characters that have a category. -/
def assigned : CharSet :=
  .ranges ((Unicode.entries Unicode.categoryTable).flatMap (·.2))

/-- The groups of general categories with their names and members. -/
def categoryGroups : List (List String × List String) :=
  [(["L", "Letter"], ["Lu", "Ll", "Lt", "Lm", "Lo"]),
   (["LC", "Cased_Letter"], ["Lu", "Ll", "Lt"]),
   (["M", "Mark", "Combining_Mark"], ["Mn", "Mc", "Me"]),
   (["N", "Number"], ["Nd", "Nl", "No"]),
   (["P", "Punctuation", "punct"], ["Pc", "Pd", "Ps", "Pe", "Pi", "Pf", "Po"]),
   (["S", "Symbol"], ["Sm", "Sc", "Sk", "So"]),
   (["Z", "Separator"], ["Zs", "Zl", "Zp"])]

/-- The set of a general category, a group of categories or one of the names for all characters,
all assigned ones and the ASCII ones. The name is given in its loose form. -/
def category? (name : List Char) : Option CharSet :=
  let isOneOf (names : List String) : Bool := (names.map fun n => looseName n.toList).contains name
  if isOneOf ["any"] then some .all
  else if isOneOf ["assigned"] then some assigned
  else if isOneOf ["ascii"] then some (.ranges [(0, 127)])
  else if isOneOf ["Cn", "Unassigned"] then some (.negate assigned)
  else if isOneOf ["C", "Other"] then
    some (.union (.ranges (Unicode.category "Cc" ++ Unicode.category "Cf" ++ Unicode.category "Co"))
      (.negate assigned))
  else match categoryGroups.find? (isOneOf ·.1) with
    | some (_, members) => some (.ranges (members.flatMap Unicode.category))
    | none => (Unicode.find? Unicode.categoryTable name).map .ranges

def script? (name : List Char) : Option CharSet :=
  (Unicode.find? Unicode.scriptTable name).map .ranges

/-- The set of characters of an age: those of its version and of all versions before it. -/
def age? (name : List Char) : Option CharSet :=
  let versions := Unicode.entries Unicode.ageTable
  let earlier := versions.takeWhile fun v => !v.1.contains name
  (versions[earlier.length]?).map fun v => .ranges ((earlier ++ [v]).flatMap (·.2))

/-- Names that stand for a category although a yes-or-no property has the same abbreviation. -/
def isCategoryFirst (name : List Char) : Bool :=
  name = ['c', 'f'] || name = ['s', 'c'] || name = ['l', 'c']

/-- The set that a query stands for; there is none for an unknown name. -/
def PropertyQuery.set? : PropertyQuery → Option CharSet
  | .named name =>
    let name := looseName name
    let flag := if isCategoryFirst name then none else (Unicode.find? Unicode.flagTable name).map .ranges
    flag <|> category? name <|> script? name
  | .valued property value =>
    let value := looseName value
    match String.ofList (looseName property) with
    | "gc" | "generalcategory" => category? value
    | "sc" | "script" => script? value
    | "scx" | "scriptextensions" => (Unicode.find? Unicode.scriptExtensionTable value).map .ranges
    | "gcb" | "graphemeclusterbreak" => (Unicode.find? Unicode.graphemeBreakTable value).map .ranges
    | "wb" | "wordbreak" => (Unicode.find? Unicode.wordBreakTable value).map .ranges
    | "sb" | "sentencebreak" => (Unicode.find? Unicode.sentenceBreakTable value).map .ranges
    | "age" => age? value
    | _ => none

end Sentinel.Pattern
