import FlowScript.Dict
import FlowScript.Text.Cut

/-!
# Locales

Variables say how programs take the bytes of their arguments: as single bytes, or as text in UTF-8.
There is one variable for each category, one that speaks for all of them, and one for those of which
nothing is said. If one of the locales named is not there, bytes are just bytes.
-/

namespace FlowScript.Programs.Locale

/-- The categories. -/
def categories : List String :=
  ["LC_CTYPE", "LC_NUMERIC", "LC_TIME", "LC_COLLATE", "LC_MONETARY", "LC_MESSAGES", "LC_PAPER",
    "LC_NAME", "LC_ADDRESS", "LC_TELEPHONE", "LC_MEASUREMENT", "LC_IDENTIFICATION"]

/-- The locale of a category: the first variable with a value says it. -/
def named (vars : Dict String) (category : String) : String :=
  let value? (name : String) : Option String := (vars.get? name).filter (!·.isEmpty)
  (((value? "LC_ALL").or (value? category)).or (value? "LANG")).getD "C"

/-- Whether a locale is the one that takes bytes as text in UTF-8. A territory and a modifier make
no difference. -/
def isUtf8 (locale : String) : Bool :=
  let plain := locale.toList.takeWhile (· ≠ '@')
  match Text.cut '.' (String.ofList plain) with
  | some (language, codes) =>
    language.toList.takeWhile (· ≠ '_') = ['C'] &&
      ["UTF-8", "UTF8"].contains (String.ofList (codes.toList.map Char.toUpper))
  | none => false

/-- Whether a locale is there. -/
def isThere (locale : String) : Bool :=
  locale = "C" || locale = "POSIX" || (isUtf8 locale && !locale.toList.contains '/')

/-- Whether variables have programs take bytes as text in UTF-8. -/
def usesUtf8 (vars : Dict String) : Bool :=
  categories.all (fun c => isThere (named vars c)) && isUtf8 (named vars "LC_CTYPE")

end FlowScript.Programs.Locale
